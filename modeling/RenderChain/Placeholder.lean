/-
  RenderChain/Placeholder.lean
  ============================
  **The placeholder language.**  `{name}` stands for a variable, `{user.email}`
  and `{items.0}` for something inside one, and doubled braces for braces.

  A template is first cut into pieces; this alone decides whether it is well
  formed, whatever the variables are.  Then every piece is expanded, and that
  cannot fail: a name that leads to nothing stays in the text as it was written,
  without the white space around it.
-/
import RenderChain.Engine
import RenderChain.Text.Unicode

namespace RenderChain.Placeholder

/-! ## Pieces -/

/-- A part of a template: text as it will appear, or a name to look up. -/
inductive Piece
  | text (c : Char)
  | name (cs : List Char)
  deriving DecidableEq, Repr

/-- Why a template is no sequence of pieces. -/
inductive Fault
  /-- A brace that is never closed, with the text after it. -/
  | unclosed (rest : List Char)
  | emptyName
  deriving DecidableEq, Repr

def Fault.message : Fault → String
  | .unclosed rest => "Unclosed variable substitution: \x7b" ++ String.ofList rest
  | .emptyName => "Empty variable name in template"

/-- The pieces of a template, from left to right. -/
def scan : List Char → Except Fault (List Piece)
  | [] => .ok []
  | '}' :: '}' :: rest => (.text '}' :: ·) <$> scan rest
  | '}' :: rest => (.text '}' :: ·) <$> scan rest
  | '{' :: '{' :: rest => (.text '{' :: ·) <$> scan rest
  | '{' :: rest =>
    if '}' ∈ rest then
      let name := Text.trim (rest.takeWhile (· ≠ '}'))
      if name = [] then .error .emptyName
      else (.name name :: ·) <$> scan ((rest.dropWhile (· ≠ '}')).drop 1)
    else .error (.unclosed rest)
  | c :: rest => (.text c :: ·) <$> scan rest
termination_by cs => cs.length
decreasing_by
  all_goals simp only [List.length_cons, List.length_drop]
  all_goals grind [List.dropWhile_suffix, List.IsSuffix.length_le]

/-! ## Names -/

/-- The largest index of a list, and one more. -/
def indexLimit : Nat := Nat.pow 2 64

/-- A list index: decimal digits, possibly after a plus sign. -/
def index? (part : String) : Option Nat :=
  let digits := match part.toList with
    | '+' :: rest => rest
    | cs => cs
  if digits = [] ∨ ¬ digits.all Char.isDigit then none
  else
    let n := digits.foldl (fun n c => n * 10 + (c.toNat - 48)) 0
    if n < indexLimit then some n else none

/-- One step into a value: a key of an object or an index of a list. -/
def step (value : Json) (part : String) : Option Json :=
  match value with
  | .object fields => Keyed.find? part fields
  | .array items => do items[← index? part]?
  | _ => none

/-- Where a dotted name leads to. -/
def lookup (vars : Variables) (name : String) : Option Json :=
  match Text.split '.' name with
  | [] => none
  | first :: parts => do parts.foldlM step (← Keyed.find? first vars)

/-- The text of a value: a string as it is, nothing for `null`, JSON otherwise. -/
def valueText : Json → String
  | .string s => s
  | .null => ""
  | other => other.compact

/-! ## Rendering -/

def Piece.expand (vars : Variables) : Piece → List Char
  | .text c => [c]
  | .name cs =>
    match lookup vars (String.ofList cs) with
    | some value => (valueText value).toList
    | none => '{' :: cs ++ ['}']

/-- The text of a template. -/
def expand (content : String) (vars : Variables) : Except Fault String := do
  let pieces ← scan content.toList
  return String.ofList (pieces.flatMap (Piece.expand vars))

/-- The name under which a template without a path is reported. -/
def anonymous : String := "<string>"

def render (content : String) (vars : Variables) (path : Option String) :
    Except Error String :=
  match expand content vars with
  | .ok text => .ok text
  | .error fault => .error (.render (path.getD anonymous) fault.message)

/-- The renderer of an engine; it is the same for every file type. -/
def renderer {σ : Type} (engine : EngineId) : Renderer σ :=
  .ofString (.onlyOf engine) fun content vars path =>
    Action.ofExcept (render content vars path)

def engine {σ : Type} (id : EngineId) : Engine σ where
  id := id
  createRenderer := fun _ _ => pure (renderer id)

end RenderChain.Placeholder
