/-
  RenderChain/Yaml/Meaning.lean
  =============================
  **What a plain scalar means.**

  A scalar without quotation marks is null, a truth value, a number, or else a
  text, by the core schema of YAML 1.2: a number with a leading zero is a text,
  and hexadecimal, octal and binary integers have a marker in front.  A scalar
  in quotation marks or with a tag for texts is always a text, and one with a tag
  for another kind of scalar has to be of that kind.
-/
import RenderChain.Yaml.Scalar
import RenderChain.Yaml.Tag

namespace RenderChain.Yaml

/-- What a scalar means. -/
inductive Meaning
  | null
  | bool (b : Bool)
  | int (n : Int)
  | float (x : Float)
  | text (s : String)

def isNull (s : String) : Bool := s ∈ ["~", "null", "Null", "NULL"]

def bool? (s : String) : Option Bool :=
  if s ∈ ["true", "True", "TRUE"] then some true
  else if s ∈ ["false", "False", "FALSE"] then some false
  else none

/-! ## Numbers -/

/-- A sign at the start of the text, and the rest. -/
def sign (cs : List Char) : Bool × List Char :=
  match cs with
  | '-' :: rest => (true, rest)
  | '+' :: rest => (false, rest)
  | cs => (false, cs)

/-- Digits after a leading zero, which make no number. -/
def hasLeadingZero (s : String) : Bool :=
  match (sign s.toList).2 with
  | '0' :: c :: rest => (c :: rest).all Char.isDigit
  | _ => false

/-- An integer of at most 128 bits; a longer one is a floating point number. -/
def int? (s : String) : Option Int := do
  let (negative, cs) := sign s.toList
  let n ← match cs with
    | '0' :: 'x' :: rest => Decimal.digits? 16 rest
    | '0' :: 'o' :: rest => Decimal.digits? 8 rest
    | '0' :: 'b' :: rest => Decimal.digits? 2 rest
    | cs => if hasLeadingZero s then none else Decimal.digits? 10 cs
  if negative then (if n ≤ Nat.pow 2 127 then some (-n) else none)
  else if n < Nat.pow 2 128 then some (n : Int) else none

/-- A binary64 number in digits, with a point or an exponent or both or none. -/
def decimal? (cs : List Char) : Option Float := do
  let (negative, cs) := sign cs
  let mantissa := cs.takeWhile fun c => c ≠ 'e' ∧ c ≠ 'E'
  if (mantissa.filter Char.isDigit).isEmpty ∨ 1 < mantissa.count '.' then none
  let x ← Decimal.float? cs
  if x.isInf then none
  return if negative then -x else x

def float? (s : String) : Option Float :=
  let (negative, cs) := sign s.toList
  if String.ofList cs ∈ [".inf", ".Inf", ".INF"] then
    some (if negative then -(1.0 / 0.0) else 1.0 / 0.0)
  else if s ∈ [".nan", ".NaN", ".NAN"] then some (0.0 / 0.0)
  else decimal? s.toList

/-! ## Meaning -/

/-- Whether an integer has at most 64 bits, with or without a sign. -/
def isWord (n : Int) : Bool := -Int.pow 2 63 ≤ n && n < Int.pow 2 64

def Meaning.int? (s : String) : Option Meaning :=
  (Yaml.int? s).bind fun n => if isWord n then some (.int n) else none

/-- The meaning of a scalar without tag and quotation marks. -/
def Meaning.ofPlain? (s : String) : Option Meaning :=
  if s.isEmpty || isNull s then some .null
  else
    match bool? s, Yaml.int? s, float? s with
    | some b, _, _ => some (.bool b)
    | none, some _, _ => Meaning.int? s
    | none, none, some x => some (if hasLeadingZero s then .text s else .float x)
    | none, none, none => some (.text s)

/-- The meaning of a scalar, which there is none of if its tag is one for
    another kind of scalar, or if it is an integer of too many bits. -/
def Meaning.of? (s : String) (style : ScalarStyle) (tag : Option String) : Option Meaning :=
  if tag = some (coreTag "null") then (if isNull s then some .null else none)
  else if tag = some (coreTag "bool") then (bool? s).map .bool
  else if tag = some (coreTag "int") then Meaning.int? s
  else if tag = some (coreTag "float") then (float? s).map .float
  else if style = .plain ∧ (tag.isNone ∨ (localTag? tag).isSome) then Meaning.ofPlain? s
  else some (.text s)

/-- Whether two scalars mean the same; every number that is none is the same. -/
def Meaning.same : Meaning → Meaning → Bool
  | .null, .null => true
  | .bool a, .bool b => a == b
  | .int a, .int b => a == b
  | .float x, .float y => x == y || (x.isNaN && y.isNaN)
  | .text s, .text t => s == t
  | _, _ => false

end RenderChain.Yaml
