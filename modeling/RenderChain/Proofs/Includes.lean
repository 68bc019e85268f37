/-
  RenderChain/Proofs/Includes.lean
  ================================
  **Includes see the files that loading sees.**

  An include is looked for by a loop of its own.  It goes from root to root, gives up at the
  first root where the name could lead out, and reads the first file that it comes to.  A
  loader joins the name to all roots, leaves out those where it could lead out, and takes the
  first file.  The two agree because a name that could lead out of one root could lead out of
  every root (`includeSource_eq`).

  Once there is a file, the include is the text of this file or a failure.  Later roots are
  only asked when no root before them has a file (`includeSource_append`).
-/
import RenderChain.Engine.Template
import RenderChain.Proofs.Containment

namespace RenderChain

variable {fs : Files} {roots : List String} {name file text : String}

namespace Files

theorem find?_cons (fs : Files) (root : String) (rest : List String) (path : String) :
    fs.find? (root :: rest) path =
      ((Path.below root path).filter fs.isFile).or (fs.find? rest path) := by
  rw [find?, List.filterMap_cons]
  cases Path.below root path with
  | none => rfl
  | some file =>
    dsimp only
    rw [List.find?_cons, Option.filter_some]
    cases fs.isFile file <;> rfl

theorem find?_append (fs : Files) (roots later : List String) (path : String) :
    fs.find? (roots ++ later) path = (fs.find? roots path).or (fs.find? later path) := by
  rw [find?, List.filterMap_append, List.find?_append]
  rfl

/-- A path that could lead out of one root is found below no root. -/
theorem find?_of_below_eq_none {root : String} (h : Path.below root name = none)
    (roots : List String) : fs.find? roots name = none := by
  rw [find?_eq_none_iff]
  intro other _ full hbelow
  exact absurd (Path.below_eq_none_iff.1 h) (Path.below_eq_some_iff.1 hbelow).1

end Files

theorem Action.readText_of_error {σ : Type} {fault : FileFault} {w : World σ}
    (h : w.files.readText file = .error fault) :
    Action.readText file w = .error (.io file fault) w := by
  have hfiles : Action.files w = .ok w.files w := rfl
  refine (bind_of_ok hfiles).trans ?_
  rw [h]
  rfl

theorem Loaded.read_file_eq_ok_iff {σ : Type} {w w' : World σ} :
    (Loaded.file file).read w = .ok text w' ↔ w.files.readText file = .ok text ∧ w' = w := by
  rw [Loaded.read]
  cases hread : w.files.readText file with
  | ok found =>
    rw [Action.readText_of_ok hread]
    simp [eq_comm]
  | error fault =>
    rw [Action.readText_of_error hread]
    simp

theorem Loaded.read_file_eq_error_iff {σ : Type} {fault : FileFault} {w w' : World σ} :
    (Loaded.file file).read w = .error (.io file fault) w' ↔
      w.files.readText file = .error fault ∧ w' = w := by
  rw [Loaded.read]
  cases hread : w.files.readText file with
  | ok found =>
    rw [Action.readText_of_ok hread]
    simp
  | error found =>
    rw [Action.readText_of_error hread]
    simp [eq_comm]

namespace Files

/-- What an include makes of the file that is found. -/
def included (fs : Files) (file : String) : Except String (Option String) :=
  match fs.readText file with
  | .ok text => .ok (some text)
  | .error _ => .error ("could not read template '" ++ file ++ "'")

/-- The loop over the roots reads what loading would find. -/
theorem includeSource_eq (fs : Files) (roots : List String) (name : String) :
    fs.includeSource roots name = ((fs.find? roots name).map fs.included).getD (.ok none) := by
  induction roots with
  | nil => rfl
  | cons root rest ih =>
    rw [includeSource]
    cases hbelow : Path.below root name with
    | none => rw [find?_of_below_eq_none hbelow]; rfl
    | some file =>
      rw [find?_cons, hbelow, Option.filter_some, ih]
      dsimp only
      cases fs.isFile file <;> rfl

/-- Roots that come later count where no root before them has the file. -/
theorem includeSource_append (fs : Files) (roots later : List String) (name : String) :
    fs.includeSource (roots ++ later) name =
      match fs.includeSource roots name with
      | .ok none => fs.includeSource later name
      | answer => answer := by
  rw [includeSource_eq, includeSource_eq, includeSource_eq, find?_append]
  cases fs.find? roots name with
  | none => simp
  | some file =>
    unfold included
    cases hread : fs.readText file <;> simp [hread]

theorem included_eq_some_iff :
    fs.included file = .ok (some text) ↔ fs.readText file = .ok text := by
  unfold included
  cases fs.readText file <;> simp

theorem included_ne_none : fs.included file ≠ .ok none := by
  unfold included
  cases fs.readText file <;> simp

theorem included_eq_error_iff {message : String} : fs.included file = .error message ↔
    (∃ fault, fs.readText file = .error fault) ∧
      message = "could not read template '" ++ file ++ "'" := by
  unfold included
  cases fs.readText file <;> simp [eq_comm]

variable {σ : Type}

/-- **Includes and loading.**  An include has a text exactly if a loader of the same roots,
    whatever its extension, loads a file that can be read, and it is missing exactly if the
    loader finds no template.  It fails exactly if the file that is loaded refuses to be read
    or is no text.  This is the file of the first root that has one, and no later root is
    asked. -/
theorem includeSource_exact (roots : List String) (extension : Option String) (name : String)
    (w : World σ) :
    (∀ text, w.files.includeSource roots name = .ok (some text) ↔
      ∃ file, (Loader.folders roots extension).load name w = .ok (.file file) w ∧
        (Loaded.file file).read w = .ok text w) ∧
    (w.files.includeSource roots name = .ok none ↔
      (Loader.folders roots extension).load name w = .error (.templateNotFound name) w) ∧
    (∀ message, w.files.includeSource roots name = .error message ↔
      ∃ file, (Loader.folders roots extension).load name w = .ok (.file file) w ∧
        (∃ fault, (Loaded.file file).read w = .error (.io file fault) w) ∧
        message = "could not read template '" ++ file ++ "'") ∧
    ∀ later, w.files.includeSource (roots ++ later) name =
      match w.files.includeSource roots name with
      | .ok none => w.files.includeSource later name
      | answer => answer := by
  have hload : ∀ file, (Loader.folders roots extension).load name w = .ok (.file file) w ↔
      w.files.find? roots name = some file := by
    intro file
    rw [Loader.load_folders_eq_ok_iff]
    simp
  have hmissing : (Loader.folders roots extension).load name w =
      .error (.templateNotFound name) w ↔ w.files.find? roots name = none := by
    rw [Loader.load_folders_eq_error_iff]
    simp
  simp only [hload, hmissing, Loaded.read_file_eq_ok_iff, Loaded.read_file_eq_error_iff, and_true]
  refine ⟨?_, ?_, ?_, fun later => includeSource_append w.files roots later name⟩
  · intro text
    rw [includeSource_eq]
    cases w.files.find? roots name with
    | none => simp
    | some file => simp [included_eq_some_iff]
  · rw [includeSource_eq]
    cases w.files.find? roots name with
    | none => simp
    | some file => simp [included_ne_none]
  · intro message
    rw [includeSource_eq]
    cases w.files.find? roots name with
    | none => simp
    | some file => simp [included_eq_error_iff]

end Files

end RenderChain
