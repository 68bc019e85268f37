/-
  RenderChain/Loader/Registry.lean
  ================================
  **Registering loaders under extensions, and finding them.**

  Each extension has a chain of loaders.  If there are root folders, a chain
  starts with a loader for them, so loaders that are added come after the files
  and loaders that are put in front come before them; a chain that is replaced
  no longer reads files.  `finalize` also gives a chain to each extension it is
  told of, and leaves out extensions whose chain is empty.
-/
import RenderChain.Extension
import RenderChain.Loader

namespace RenderChain

structure LoaderRegistry (σ : Type) where
  roots : List String
  chains : Keyed (List (Loader σ))
  default : Option (Loader σ)

namespace LoaderRegistry

variable {σ : Type}

def empty (roots : List String) : LoaderRegistry σ := ⟨roots, [], none⟩

/-- The chain that an extension has before anything is added to it. -/
def seed (roots : List String) (extension : String) : List (Loader σ) :=
  if roots.isEmpty then [] else [.folders roots (some extension)]

/-- The chain of an extension, which is a new one if there was none. -/
def chainOf (r : LoaderRegistry σ) (extension : String) : List (Loader σ) :=
  (Keyed.find? extension r.chains).getD (seed r.roots extension)

/-- Changes the chain of an extension in place. -/
def change (extension : String) (f : List (Loader σ) → List (Loader σ)) :
    Registering (LoaderRegistry σ) Unit := do
  Extension.accept extension
  modify fun r => { r with chains := Keyed.put extension (f (r.chainOf extension)) r.chains }

/-- The registry that a change of a chain makes. -/
def edit (r : LoaderRegistry σ) (extension : String)
    (f : List (Loader σ) → List (Loader σ)) :
    Except RegistrationError (LoaderRegistry σ) :=
  (change extension f).outcome r

/-- Adds a loader at the end of a chain. -/
def add (r : LoaderRegistry σ) (extension : String) (loader : Loader σ) :
    Except RegistrationError (LoaderRegistry σ) :=
  r.edit extension (· ++ [loader])

def setDefault (r : LoaderRegistry σ) (loader : Loader σ) : LoaderRegistry σ :=
  { r with default := some loader }

def contains (r : LoaderRegistry σ) (extension : String) : Bool :=
  (Keyed.find? extension r.chains).isSome

end LoaderRegistry

/-! ## The index -/

/-- Loaders by extension, and the one for all other paths. -/
structure LoaderIndex (σ : Type) where
  byExtension : Keyed (Loader σ)
  default : Option (Loader σ)

namespace LoaderIndex

variable {σ : Type}

def containsExtension (index : LoaderIndex σ) (extension : String) : Bool :=
  (Keyed.find? extension index.byExtension).isSome

def extensions (index : LoaderIndex σ) : List String := index.byExtension.keys

/-- The loader of the longest key at the end of a path, else the default one. -/
def resolve (index : LoaderIndex σ) (s : Suffixes) : Option (Loader σ × Option KeyMatch) :=
  match s.resolve index.containsExtension with
  | some found => (Keyed.find? found.key index.byExtension).map fun l => (l, some found)
  | none => index.default.map fun l => (l, none)

/-- Every path that some loader offers, each once. -/
def paths (index : LoaderIndex σ) (w : World σ) : List String :=
  distinct ((index.byExtension.map Prod.snd ++ index.default.toList).flatMap (Loader.paths w))

end LoaderIndex

namespace LoaderRegistry

variable {σ : Type}

/-- A chain as one loader; an empty chain is none. -/
def link : List (Loader σ) → Option (Loader σ)
  | [] => none
  | [l] => some l
  | ls => some (.chain ls)

/-- The chains together with those that the extensions get by themselves. -/
def withSeeds (r : LoaderRegistry σ) (extensions : List String) : Keyed (List (Loader σ)) :=
  if r.roots.isEmpty then r.chains
  else
    extensions.foldl
      (fun chains e =>
        if (Keyed.find? e chains).isSome then chains else Keyed.put e (seed r.roots e) chains)
      r.chains

/-- Freezes the registry, `extensions` being those of file types and engines. -/
def finalize (r : LoaderRegistry σ) (extensions : List String) : LoaderIndex σ :=
  ⟨(r.withSeeds extensions).filterMap fun c => (link c.2).map fun l => (c.1, l),
    r.default.or (if r.roots.isEmpty then none else some (.folders r.roots none))⟩

end LoaderRegistry

end RenderChain
