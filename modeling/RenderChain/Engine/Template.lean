/-
  RenderChain/Engine/Template.lean
  ================================
  **Engines over a template language.**

  The template language is no part of this.  It is a parameter: environments of
  some kind, and a function that renders a source in an environment.  What a
  rendering gives may depend on all that the function is told, and on nothing
  else.

  An engine sets up the environments.  A renderer has one of its own for its file
  type: it escapes in HTML and XML and nowhere else, the globals of the file type
  are globals of every template, and includes are sought in the root folders.  It
  keeps the sources it has read for includes; the template that it is asked to
  render is never kept.

  An engine may wrap markup in comments that name the template.  Its environments
  may be changed by the caller, in every way that the language allows.
-/
import RenderChain.Engine

namespace RenderChain

/-- What ends a rendering without an output: a message, and the template that it is
    about, if there is one. -/
structure TemplateFault where
  template : Option String
  message : String
  deriving DecidableEq, Repr

/-- The name of a template without a path. -/
def TemplateLanguage.anonymous : String := "<string>"

/-- A fault as a failure of its template. -/
def TemplateFault.toError (fault : TemplateFault) : Error :=
  .render (fault.template.getD TemplateLanguage.anonymous) fault.message

/-! ## Includes -/

/-- The source of a template by its name, if there is one, or why it cannot be read. -/
abbrev Includes := String → Except String (Option String)

/-- The text of the first file of that name below the roots; a name that could
    lead out of a root names nothing. -/
def Files.includeSource (fs : Files) : (roots : List String) → Includes
  | [], _ => .ok none
  | root :: rest, name =>
    match Path.below root name with
    | none => .ok none
    | some file =>
      if fs.isFile file then
        match fs.readText file with
        | .ok text => .ok (some text)
        | .error _ => .error ("could not read template '" ++ file ++ "'")
      else fs.includeSource rest name

/-! ## Languages -/

structure TemplateLanguage where
  Environment : Type
  /-- A new environment.  Besides what the language has of its own there are the filters
      and the globals, and a name without a value is a fault. -/
  environment : (escapes : Bool) → (filters : List (String × (String → String))) →
    (globals : List (String × Json)) → Environment
  /-- Renders a source under a name.  Sources of includes that were kept may be used, and
      those that are to be kept from then on come with the result. -/
  render : Environment → Includes → (kept : List (String × String)) → (name source : String) →
    Variables → Except TemplateFault String × List (String × String)

namespace TemplateLanguage

variable (L : TemplateLanguage) {σ : Type}

/-! ## Environments -/

/-- The mime types whose texts consist of markup. -/
def isMarkup (mimetype : String) : Bool :=
  mimetype ∈ ["text/html", "application/xhtml+xml", "text/xml", "application/xml"]

/-- The text of a value and a line end. -/
def lineFilter (text : String) : String := text ++ "\n"

def environmentOf (ft : FileType σ) : L.Environment :=
  L.environment (isMarkup ft.mimetype) [("nl", lineFilter)] ft.globals

/-! ## Renderers -/

/-- The sources that a renderer has kept. -/
def keptBy (number : Nat) (sources : List ((Nat × String) × String)) : List (String × String) :=
  (sources.filter (·.1.1 = number)).map fun e => (e.1.2, e.2)

/-- Renders a source under a name, with the sources that the renderer has kept. -/
def renderSource (number : Nat) (env : L.Environment) (roots : List String)
    (name source : String) (vars : Variables) : Action σ String := fun w =>
  let (result, kept) :=
    L.render env (w.files.includeSource roots) (keptBy number w.sources) name source vars
  let w := { w with
    sources := kept.map (fun e => ((number, e.1), e.2)) ++ w.sources.filter (·.1.1 ≠ number) }
  match result with
  | .ok text => .ok text w
  | .error fault => .error fault.toError w

/-- A source between comments that say where it comes from. -/
def embed (source name : String) (file : Option String) : String :=
  let location := match file with
    | some file => name ++ " | " ++ file
    | none => name
  "<!-- START " ++ location ++ " -->\n\n" ++ source ++ "\n\n<!-- END " ++ location ++ " -->"

/-- The renderer of an environment. -/
def renderer (number : Nat) (env : L.Environment) (roots : List String) (embedding : Bool) :
    Renderer σ :=
  let run (source : String) (vars : Variables) (path file : Option String) :
      Action σ String :=
    let name := path.getD anonymous
    L.renderSource number env roots name
      (if embedding then embed source name file else source) vars
  { id := .numbered number
    renderString := fun content vars path => run content vars path none
    renderFile := fun file vars path => do
      run (← Action.readText file) vars path (some file) }

/-! ## The engine -/

structure Settings (σ : Type) where
  /-- Whether markup is wrapped in comments that name its template. -/
  embedPaths : Bool
  /-- A last change to each new environment. -/
  configure : Option (FileType σ → L.Environment → Action σ L.Environment)

variable {L}

def Settings.default : L.Settings σ := ⟨false, none⟩

def Settings.describe (s : L.Settings σ) : String :=
  "MiniJinjaEngine \x7b embed_paths: " ++ toString s.embedPaths ++ ", configure: " ++
    toString s.configure.isSome ++ " \x7d"

/-- The environment that an engine makes for a file type. -/
def Settings.environment (settings : L.Settings σ) (ft : FileType σ) : Action σ L.Environment :=
  match settings.configure with
  | some configure => configure ft (L.environmentOf ft)
  | none => pure (L.environmentOf ft)

variable (L) in
def engine (id : EngineId) (settings : L.Settings σ) : Engine σ where
  id := id
  createRenderer := fun context ft => do
    let number ← Action.freshNumber
    let env ← settings.environment ft
    return L.renderer number env context.roots (settings.embedPaths && isMarkup ft.mimetype)

end TemplateLanguage

end RenderChain
