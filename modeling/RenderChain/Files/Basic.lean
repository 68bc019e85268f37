/-
  RenderChain/Files/Basic.lean
  ============================
  **A tree of folders, files and symbolic links.**

  Templates are read from it.  An entry is known by its location, the list of
  names that leads to it from the top without passing a link; a path is a text,
  and `locate` follows it, links included, to a location.  A path may pass at
  most forty links, so a loop of links is an error and no endless walk.

  The entries are a list, and a folder shows its names in the order of that
  list, which is arbitrary.  Names are texts, so a tree has no name that is not
  UTF-8.  Folders can be read and entered; a file can be there and still refuse
  to be read.
-/
import RenderChain.Error
import RenderChain.Files.Path

namespace RenderChain

/-- Names that lead from the top of the tree to an entry. -/
abbrev Location := List String

inductive Entry
  | folder
  | file (content : ByteArray)
  /-- A file whose content cannot be read, and why. -/
  | unreadable (fault : FileFault)
  | link (target : String)

def Entry.isFolder : Entry → Bool
  | .folder => true
  | _ => false

def Entry.isFile : Entry → Bool
  | .file _ | .unreadable _ => true
  | _ => false

/-- The tree, and the folder where relative paths start.  The top is a folder
    without being listed. -/
structure Files where
  entries : List (Location × Entry)
  here : Location

namespace Files

/-- An empty folder to start in. -/
def empty : Files := ⟨[(["work"], .folder)], ["work"]⟩

/-- What is at a location, a link not being followed. -/
def entry? (fs : Files) (at_ : Location) : Option Entry :=
  if at_ = [] then some .folder else fs.entries.lookup at_

def isFolderAt (fs : Files) (at_ : Location) : Bool :=
  (fs.entry? at_).any Entry.isFolder

/-- The longest file name, in bytes. -/
def longestName : Nat := 255

/-- The number of bytes that no path reaches. -/
def pathLimit : Nat := 4096

/-- The number of links that one path may pass. -/
def linkLimit : Nat := 40

/-- Follows names from a location.  If `mayBeNew`, the last name may be missing
    from its folder. -/
def follow (fs : Files) (mayBeNew : Bool) (links : Nat) (at_ : Location) (todo : List String) :
    Except FileFault Location :=
  match todo with
  | [] => .ok at_
  | name :: rest =>
    if ¬ fs.isFolderAt at_ then .error .notDirectory
    else if name = "" ∨ name = "." then fs.follow mayBeNew links at_ rest
    else if name = ".." then fs.follow mayBeNew links at_.dropLast rest
    else if longestName < name.utf8ByteSize then .error .nameTooLong
    else
      match fs.entry? (at_ ++ [name]) with
      | none => if mayBeNew ∧ rest = [] then .ok (at_ ++ [name]) else .error .notFound
      | some (.link target) =>
        match links with
        | 0 => .error .linkLoop
        | links + 1 =>
          fs.follow mayBeNew links (if Path.isAbsolute target then [] else at_)
            (Text.split '/' target ++ rest)
      | some _ => fs.follow mayBeNew links (at_ ++ [name]) rest
termination_by (links, todo.length)

/-- Follows a path from where it starts. -/
def locateWith (fs : Files) (mayBeNew : Bool) (path : String) : Except FileFault Location :=
  if path = "" then .error .notFound
  else if '\x00' ∈ path.toList then .error .nulInName
  else if pathLimit ≤ path.utf8ByteSize then .error .nameTooLong
  else
    fs.follow mayBeNew linkLimit (if Path.isAbsolute path then [] else fs.here)
      (Text.split '/' path)

/-- The location of the entry that a path names. -/
def locate (fs : Files) (path : String) : Except FileFault Location := fs.locateWith false path

/-- What a path names, links having been followed. -/
def at? (fs : Files) (path : String) : Option Entry :=
  match fs.locate path with
  | .ok at_ => fs.entry? at_
  | .error _ => none

def isFile (fs : Files) (path : String) : Bool := (fs.at? path).any Entry.isFile

def isFolder (fs : Files) (path : String) : Bool := (fs.at? path).any Entry.isFolder

def exists_ (fs : Files) (path : String) : Bool := (fs.at? path).isSome

/-! ## Content -/

def readBytes (fs : Files) (path : String) : Except FileFault ByteArray :=
  match fs.locate path with
  | .error fault => .error fault
  | .ok at_ =>
    match fs.entry? at_ with
    | some (.file content) => .ok content
    | some (.unreadable fault) => .error fault
    | some _ => .error .isDirectory
    | none => .error .notFound

def readText (fs : Files) (path : String) : Except FileFault String :=
  match fs.readBytes path with
  | .error fault => .error fault
  | .ok content =>
    match String.fromUTF8? content with
    | some text => .ok text
    | none => .error .invalidText

/-! ## Folders -/

/-- The names in the folder at a location. -/
def names (fs : Files) (at_ : Location) : List String :=
  fs.entries.filterMap fun e =>
    if e.1.dropLast = at_ then e.1.getLast? else none

/-- The locations of all folders. -/
def folders (fs : Files) : List Location :=
  [] :: (fs.entries.filter fun e => e.2.isFolder).map Prod.fst

theorem mem_of_lookup {α : Type} {at_ : Location} {a : α} {entries : List (Location × α)}
    (h : entries.lookup at_ = some a) : (at_, a) ∈ entries := by
  induction entries with
  | nil => simp at h
  | cons e rest ih =>
    obtain ⟨k, v⟩ := e
    rw [List.lookup_cons] at h
    split at h
    next hk => simp only [beq_iff_eq] at hk; cases h; simp [hk]
    next => exact List.mem_cons_of_mem _ (ih h)

theorem mem_folders_of_isFolderAt {fs : Files} {at_ : Location} (h : fs.isFolderAt at_ = true) :
    at_ ∈ fs.folders := by
  unfold isFolderAt entry? at h
  split at h
  next e => simp [folders, e]
  next =>
    cases hl : fs.entries.lookup at_ with
    | none => simp [hl] at h
    | some entry =>
      rw [hl] at h
      simp only [Option.any_some] at h
      exact List.mem_cons_of_mem _
        (List.mem_map.2 ⟨(at_, entry), List.mem_filter.2 ⟨mem_of_lookup hl, h⟩, rfl⟩)

end Files

end RenderChain
