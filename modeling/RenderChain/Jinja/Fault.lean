/-
  RenderChain/Jinja/Fault.lean
  ============================
  **What can go wrong in a template**, and where.

  A fault has a kind, perhaps a detail, and once it is known the name of the
  template and the line.  The first place that is noted stays, so a fault in a
  procedure or a block is reported where it arose.
-/
namespace RenderChain.Jinja

inductive FaultKind
  | invalidOperation
  | undefinedValue
  | syntaxError
  | badEscape
  | templateNotFound
  | tooManyArguments
  | missingArgument
  | unknownFilter
  | unknownTest
  | unknownFunction
  | unknownMethod
  | unknownBlock
  | cannotUnpack
  | badInclude
  | badBlock
  deriving DecidableEq, Repr

def FaultKind.message : FaultKind → String
  | .invalidOperation => "invalid operation"
  | .undefinedValue => "undefined value"
  | .syntaxError => "syntax error"
  | .badEscape => "bad string escape"
  | .templateNotFound => "template not found"
  | .tooManyArguments => "too many arguments"
  | .missingArgument => "missing argument"
  | .unknownFilter => "unknown filter"
  | .unknownTest => "unknown test"
  | .unknownFunction => "unknown function"
  | .unknownMethod => "unknown method"
  | .unknownBlock => "unknown block"
  | .cannotUnpack => "cannot unpack"
  | .badInclude => "could not render include"
  | .badBlock => "could not render block"

/-- A place in a template. -/
structure Place where
  template : String
  line : Nat
  deriving DecidableEq, Repr

structure Fault where
  kind : FaultKind
  detail : Option String
  place : Option Place
  deriving DecidableEq, Repr

namespace Fault

def ofKind (kind : FaultKind) : Fault := ⟨kind, none, none⟩

def detailed (kind : FaultKind) (detail : String) : Fault := ⟨kind, some detail, none⟩

def invalid (detail : String) : Fault := detailed .invalidOperation detail

/-- The fault at a place, unless it already has one. -/
def located (fault : Fault) (place : Place) : Fault :=
  { fault with place := fault.place.or (some place) }

def message (fault : Fault) : String :=
  fault.kind.message ++
    (match fault.detail with
      | none => ""
      | some detail => ": " ++ detail) ++
    (match fault.place with
      | none => ""
      | some place => " (in " ++ place.template ++ ":" ++ toString place.line ++ ")")

end Fault

end RenderChain.Jinja
