/-
  RenderChain/Jinja/Test.lean
  ===========================
  **Tests.**  A test tells whether something holds of its input, which is the
  first of its arguments and may be missing.
-/
import RenderChain.Jinja.Filter

namespace RenderChain.Jinja

abbrev Test := List Value → Except Fault Bool

/-- A test of its input alone. -/
def testOn (holds : Value → Bool) : Test := fun arguments => do
  return holds (← Reading.value.all arguments)

/-- A test of its input against one other value. -/
def testAgainst (holds : Value → Value → Except Fault Bool) : Test := fun arguments => do
  let read : Reading (Value × Value) := do return (← Reading.value, ← Reading.value)
  let (v, other) ← read.all arguments
  holds v other

/-- A test that asks for an operator to hold. -/
def testOperator (op : Operator) : Test :=
  testAgainst fun v other => (op.applyPresent v other).map Value.isTrue

/-- Whether the input is a text that starts or ends with another one. -/
def testText (holds : List Char → List Char → Bool) : Test := fun arguments => do
  let read : Reading (Value × Value) := do return (← Reading.text, ← Reading.text)
  let (v, other) ← read.all arguments
  return holds v.toText.toList other.toText.toList

def isWhole (holds : Int → Bool) (v : Value) : Bool := (whole? v).any holds

def standardTests : List (String × Test) :=
  [("defined", testOn fun v => !v.isUndefined),
    ("undefined", testOn Value.isUndefined),
    ("none", testOn fun v => v.kind = .none),
    ("safe", testOn Value.isSafe),
    ("escaped", testOn Value.isSafe),
    ("boolean", testOn fun v => v.kind = .bool),
    ("true", testOn fun v => match v with | .bool b => b | _ => false),
    ("false", testOn fun v => match v with | .bool b => !b | _ => false),
    ("number", testOn fun v => v.kind = .number),
    ("integer", testOn fun v => match v with | .int .. => true | _ => false),
    ("float", testOn fun v => match v with | .float _ => true | _ => false),
    ("odd", testOn (isWhole fun n => n % 2 == 1)),
    ("even", testOn (isWhole fun n => n % 2 == 0)),
    ("string", testOn fun v => v.kind = .string),
    ("sequence", testOn fun v => v.kind = .sequence),
    ("iterable", testOn fun v => v.isUndefined || iterate v matches .ok _),
    ("mapping", testOn fun v => v.kind = .map),
    ("eq", testOperator .eq), ("equalto", testOperator .eq),
    ("ne", testOperator .ne),
    ("lt", testOperator .lt), ("lessthan", testOperator .lt),
    ("le", testOperator .le),
    ("gt", testOperator .gt), ("greaterthan", testOperator .gt),
    ("ge", testOperator .ge),
    ("in", testAgainst fun v other => do return contains (← present other) v matches .ok true),
    ("startingwith", testText fun s t => t.isPrefixOf s),
    ("endingwith", testText fun s t => t.isSuffixOf s)]

end RenderChain.Jinja
