/-
  RenderChain/FileType/Registry.lean
  ==================================
  **Registering file types, and finding them by extension.**

  While a pipeline is configured, its file types are a list in the order in
  which their mime types were first asked for; asking for an unknown mime type
  adds an empty file type for it.  `finalize` turns the list into an index, and
  refuses two file types that own one extension and a default that is none of
  them.
-/
import RenderChain.FileType
import RenderChain.Suffixes

namespace RenderChain

/-- The file types of a configuration, one for each mime type. -/
structure FileTypeRegistry (σ : Type) where
  types : List (FileType σ)

namespace FileTypeRegistry

variable {σ : Type}

def empty : FileTypeRegistry σ := ⟨[]⟩

def find? (r : FileTypeRegistry σ) (mimetype : String) : Option (FileType σ) :=
  r.types.find? (·.mimetype = mimetype)

def contains (r : FileTypeRegistry σ) (mimetype : String) : Bool :=
  r.types.any (·.mimetype = mimetype)

def mimetypes (r : FileTypeRegistry σ) : List String := r.types.map (·.mimetype)

def extensions (r : FileTypeRegistry σ) : List String := r.types.flatMap (·.extensions)

/-- The file type of a mime type, which is an empty one if there was none. -/
def getOrEmpty (r : FileTypeRegistry σ) (mimetype : String) : FileType σ :=
  (r.find? mimetype).getD (.empty mimetype)

/-- Sets the file type of its mime type, in the place of the one that it had. -/
def put (r : FileTypeRegistry σ) (ft : FileType σ) : FileTypeRegistry σ :=
  ⟨go r.types⟩
where
  go : List (FileType σ) → List (FileType σ)
    | [] => [ft]
    | old :: rest => if old.mimetype = ft.mimetype then ft :: rest else old :: go rest

/-- Makes sure that a mime type has a file type. -/
def ensure (r : FileTypeRegistry σ) (mimetype : String) : FileTypeRegistry σ :=
  r.put (r.getOrEmpty mimetype)

/-! ### Calls -/

/-- Asks for the file type of a mime type, which is registered if it was not. -/
def request (mimetype : String) : Registering (FileTypeRegistry σ) (FileType σ) := do
  match (← get).find? mimetype with
  | some ft => return ft
  | none =>
    modify fun r => ⟨r.types ++ [.empty mimetype]⟩
    return .empty mimetype

/-- Edits the file type of a mime type in place.  One that nobody has asked for is registered
    with the edit, and not at all if the edit is refused. -/
def change (mimetype : String) (e : FileType.Edit σ) :
    Registering (FileTypeRegistry σ) Unit := do
  if (← get).contains mimetype then Registering.onPart (·.getOrEmpty mimetype) put e.run
  else
    match e.run (.empty mimetype) with
    | .ok () ft => modify fun r => ⟨r.types ++ [ft]⟩
    | .error fault _ => throw fault

/-- The registry that an edit of a file type makes. -/
def edit (r : FileTypeRegistry σ) (mimetype : String) (e : FileType.Edit σ) :
    Except RegistrationError (FileTypeRegistry σ) :=
  (change mimetype e).outcome r

end FileTypeRegistry

/-! ## The index -/

/-- File types by mime type and by extension, and the one for all other paths. -/
structure FileTypeIndex (σ : Type) where
  byMimetype : Keyed (FileType σ)
  byExtension : Keyed (FileType σ)
  default : Option (FileType σ)

namespace FileTypeIndex

variable {σ : Type}

def find? (index : FileTypeIndex σ) (mimetype : String) : Option (FileType σ) :=
  Keyed.find? mimetype index.byMimetype

def containsExtension (index : FileTypeIndex σ) (extension : String) : Bool :=
  (Keyed.find? extension index.byExtension).isSome

/-- The file type of the longest key at the end of the segments. -/
def lookup (index : FileTypeIndex σ) (segments : List String) :
    Option (FileType σ × KeyMatch) := do
  let found ← longestKey index.containsExtension segments
  let ft ← Keyed.find? found.key index.byExtension
  return (ft, found)

/-- The file type of a path: by its longest key, else the default one. -/
def resolve (index : FileTypeIndex σ) (s : Suffixes) :
    Option (FileType σ × Option KeyMatch) :=
  match index.lookup s.segments with
  | some (ft, found) => some (ft, some found)
  | none => index.default.map fun ft => (ft, none)

/-- Enters a file type under its extensions. -/
def claim (ft : FileType σ) (owners : Keyed (FileType σ)) :
    List String → Except RegistrationError (Keyed (FileType σ))
  | [] => .ok owners
  | extension :: rest =>
    match Keyed.find? extension owners with
    | some owner => .error (.conflictingExtension extension owner.mimetype ft.mimetype)
    | none => claim ft (Keyed.put extension ft owners) rest

/-- Enters file types one after the other. -/
def claimAll (owners : Keyed (FileType σ)) :
    List (FileType σ) → Except RegistrationError (Keyed (FileType σ))
  | [] => .ok owners
  | ft :: rest => do claimAll (← claim ft owners ft.extensions) rest

end FileTypeIndex

/-- Freezes the registry. -/
def FileTypeRegistry.finalize {σ : Type} (r : FileTypeRegistry σ) (default : Option String) :
    Except RegistrationError (FileTypeIndex σ) := do
  let byExtension ← FileTypeIndex.claimAll [] r.types
  let byMimetype := Keyed.ofList (r.types.map fun ft => (ft.mimetype, ft))
  match default with
  | none => return ⟨byMimetype, byExtension, none⟩
  | some mimetype =>
    match Keyed.find? mimetype byMimetype with
    | none => throw (.unknownDefaultFileType mimetype)
    | some ft => return ⟨byMimetype, byExtension, some ft⟩

end RenderChain
