/-
  RenderChain/Files/Edit.lean
  ===========================
  **Changing the tree of files**: writing and removing files, linking, and
  making folders together with the folders above them.

  Making a folder fails if its name is taken, whatever by; making a folder and
  all those above it fails only if the name is taken by something else than a
  folder.
-/
import RenderChain.Files.Basic

namespace RenderChain.Files

/-- Puts an entry at a location. -/
def put (fs : Files) (at_ : Location) (entry : Entry) : Files :=
  if fs.entries.any (·.1 = at_) then
    { fs with entries := fs.entries.map fun e => if e.1 = at_ then (at_, entry) else e }
  else { fs with entries := fs.entries ++ [(at_, entry)] }

/-! ## Folders -/

/-- The folder that would hold a path, and the path's last name there. -/
def place (fs : Files) (path : String) : Except FileFault (Location × String) := do
  if '\x00' ∈ path.toList then throw .nulInName
  if pathLimit ≤ path.utf8ByteSize then throw .nameTooLong
  match (Text.split '/' path).reverse.dropWhile (· = "") with
  | [] => if path = "" then .error .notFound else .error .alreadyExists
  | name :: above => do
    let top := if Path.isAbsolute path then [] else fs.here
    let folder ← fs.follow false linkLimit top above.reverse
    if ¬ fs.isFolderAt folder then .error .notDirectory
    else if longestName < name.utf8ByteSize then .error .nameTooLong
    else .ok (folder, name)

/-- Makes one folder in a folder that exists. -/
def makeFolder (fs : Files) (path : String) : Except FileFault Files := do
  let (folder, name) ← fs.place path
  if name = "." ∨ name = ".." ∨ (fs.entry? (folder ++ [name])).isSome then throw .alreadyExists
  return fs.put (folder ++ [name]) .folder

/-- Makes a folder; `above` are the folders above it, which are made if they are
    what is missing. -/
def makeFolderBelow (fs : Files) (path : String) (above : List String) :
    Except FileFault Files :=
  match fs.makeFolder path with
  | .ok made => .ok made
  | .error .notFound =>
    match above with
    | [] => .error (.other "failed to create whole tree")
    | parent :: rest => do
      let fs ← if parent = "" then .ok fs else fs.makeFolderBelow parent rest
      match fs.makeFolder path with
      | .ok made => .ok made
      | .error fault => if fs.isFolder path then .ok fs else .error fault
  | .error fault => if fs.isFolder path then .ok fs else .error fault

/-- Makes a folder and those above it, as far as they are missing. -/
def makeFolders (fs : Files) (path : String) : Except FileFault Files :=
  if path = "" then .ok fs else fs.makeFolderBelow path (Path.ancestors path)

/-! ## Files and links -/

/-- Makes the folders above a path. -/
def makeAbove (fs : Files) (path : String) : Except FileFault Files :=
  match Path.ancestors path with
  | [] => .ok fs
  | parent :: _ => fs.makeFolders parent

/-- Writes a file; the folders above it are made if they are missing. -/
def writeFile (fs : Files) (path : String) (content : ByteArray) : Except FileFault Files := do
  let fs ← fs.makeAbove path
  let at_ ← fs.locateWith true path
  if fs.isFolderAt at_ then throw .isDirectory
  return fs.put at_ (.file content)

def addLink (fs : Files) (path target : String) : Except FileFault Files := do
  let fs ← fs.makeAbove path
  let (folder, name) ← fs.place path
  if name = "." ∨ name = ".." ∨ (fs.entry? (folder ++ [name])).isSome then throw .alreadyExists
  return fs.put (folder ++ [name]) (.link target)

/-- Removes a file, or a link and not what it leads to. -/
def removeFile (fs : Files) (path : String) : Except FileFault Files := do
  let (folder, name) ← fs.place path
  match fs.entry? (folder ++ [name]) with
  | none => throw .notFound
  | some .folder => throw .isDirectory
  | some _ => return { fs with entries := fs.entries.filter (·.1 ≠ folder ++ [name]) }

end RenderChain.Files
