/-
  RenderChain/Engine/Builtin.lean
  ===============================
  **The engines that a configuration can name.**

  One of them is the placeholder language.  The other one is an engine over the
  template language of this library.
-/
import RenderChain.Engine.Template
import RenderChain.Jinja.Evaluate
import RenderChain.Placeholder

namespace RenderChain

namespace Jinja

/-! ## Environments -/

/-- The name under which a function of the language prints. -/
def printedName (function : String) : String := "minijinja::functions::builtins::" ++ function

/-- An environment with the standard functions, filters and tests, and with more filters
    and globals. -/
def Environment.standard (escapes : Bool) (more : List (String × (String → String)))
    (globals : List (String × Json)) : Environment where
  escapes := escapes
  globals := (Keyed.ofList
      (standardFunctions.map fun f => (f.1, .function (printedName f.1)))).overlay
    (globals.map fun g => (g.1, .ofJson g.2))
  functions := standardFunctions.map fun f => (printedName f.1, f.2)
  filters := more.map (fun f => (f.1, onValue fun v => .ok (.text (f.2 v.toText)))) ++
    standardFilters
  tests := standardTests

/-- Adds a function, in place of what had its name. -/
def Environment.addFunction (env : Environment) (name : String) (f : Function) : Environment :=
  { env with
    globals := Keyed.put name (.function name) env.globals
    functions := (name, f) :: env.functions }

def Environment.addFilter (env : Environment) (name : String) (f : Filter) : Environment :=
  { env with filters := (name, f) :: env.filters }

/-! ## The language -/

def valuesOf (vars : Variables) : Keyed Value := vars.map fun v => (v.1, .ofJson v.2)

def Fault.toTemplateFault (fault : Fault) : TemplateFault :=
  ⟨fault.place.map (·.template), fault.message⟩

/-- Includes that cannot be read are operations that fail. -/
def sourceOf (includes : Includes) : SourceOf := fun name => (includes name).mapError .invalid

def language : TemplateLanguage where
  Environment := Environment
  environment := .standard
  render := fun env includes kept name source vars =>
    let (result, kept) := render env (sourceOf includes) kept name source (valuesOf vars)
    (result.mapError Fault.toTemplateFault, kept)

variable {σ : Type}

abbrev Settings (σ : Type) := language.Settings σ

abbrev environmentOf (ft : FileType σ) : Environment := language.environmentOf ft

abbrev renderSource (number : Nat) (env : Environment) (roots : List String)
    (name source : String) (vars : Variables) : Action σ String :=
  language.renderSource number env roots name source vars

abbrev engine (id : EngineId) (settings : Settings σ) : Engine σ := language.engine id settings

end Jinja

/-- The engine of a name. -/
def builtinEngine? {σ : Type} (name : String) (id : EngineId) : Option (Engine σ) :=
  if name = "minijinja" ∨ name = "jinja2" then some (Jinja.engine id .default)
  else if name = "simple" then some (Placeholder.engine id)
  else none

end RenderChain
