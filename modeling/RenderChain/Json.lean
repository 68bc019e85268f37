/-
  RenderChain/Json.lean
  =====================
  **The values of variables and globals**, and their compact JSON text.

  Integers and binary64 numbers are different values even when they are equal:
  `1` and `1.0` print differently everywhere.  The fields of an object are
  sorted by their names, so an object has one text.
-/
import RenderChain.Decimal
import RenderChain.Keyed
import RenderChain.Text.Escape

namespace RenderChain

inductive Json
  | null
  | bool (value : Bool)
  | int (value : Int)
  | float (value : Float)
  | string (value : String)
  | array (items : List Json)
  | object (fields : List (String × Json))

/-- What the caller of a template gives it, by name. -/
abbrev Variables := Keyed Json

namespace Json

/-! ## Text -/

/-- A character inside a JSON string. -/
def escapeChar (c : Char) : List Char :=
  if c = '"' then ['\\', '"']
  else if c = '\\' then ['\\', '\\']
  else if c = '\n' then ['\\', 'n']
  else if c = '\r' then ['\\', 'r']
  else if c = '\t' then ['\\', 't']
  else if c = '\x08' then ['\\', 'b']
  else if c = '\x0c' then ['\\', 'f']
  else if c.toNat < 0x20 then
    ['\\', 'u', '0', '0', Text.hexDigit (c.toNat / 16), Text.hexDigit (c.toNat % 16)]
  else [c]

def stringText (s : String) : String :=
  "\"" ++ String.ofList (s.toList.flatMap escapeChar) ++ "\""

/-- A number, truth value or `null` as JSON writes it. -/
def scalarText : Json → String
  | .null => "null"
  | .bool b => if b then "true" else "false"
  | .int n => toString n
  | .float x => Decimal.Layout.json.text x
  | .string s => stringText s
  | _ => ""

mutual

/-- JSON without any white space. -/
def compact : Json → String
  | .array items => "[" ++ ",".intercalate (compactItems items) ++ "]"
  | .object fields => "\x7b" ++ ",".intercalate (compactFields fields) ++ "\x7d"
  | .null => scalarText .null
  | .bool b => scalarText (.bool b)
  | .int n => scalarText (.int n)
  | .float x => scalarText (.float x)
  | .string s => scalarText (.string s)

def compactItems : List Json → List String
  | [] => []
  | j :: rest => compact j :: compactItems rest

def compactFields : List (String × Json) → List String
  | [] => []
  | (name, j) :: rest => (stringText name ++ ":" ++ compact j) :: compactFields rest

end

/-! ## Access -/

/-- The value under an object key. -/
def field? (name : String) : Json → Option Json
  | .object fields => Keyed.find? name fields
  | _ => none

end Json

end RenderChain
