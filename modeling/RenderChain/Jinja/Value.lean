/-
  RenderChain/Jinja/Value.lean
  ============================
  **The values of the template language**, their kinds, and their texts.

  Variables come in as JSON; a template can also hold a missing value, a text
  that is safe to print without escaping, the state of a loop, and things that
  can be called.  A missing value is an error in nearly every use; the one that
  a condition without an alternative leaves behind is not, and prints nothing.

  Loops and procedures have fields and count as maps; a list that was computed
  counts as an iterator, not as a sequence, but reads like one.
-/
import RenderChain.Json
import RenderChain.Text.Escape

namespace RenderChain.Jinja

/-- Where a loop stands. -/
structure LoopState where
  /-- Tells the loop from all others. -/
  number : Nat
  index0 : Nat
  length : Nat
  /-- How many calls of the loop by itself there are around this run of it. -/
  depth0 : Nat
  deriving DecidableEq, Repr

/-- The machine word that holds an integer, which shows only at the ends of its range. -/
inductive Word
  | unsigned64
  | signed64
  | unsigned128
  | signed128
  deriving DecidableEq, Repr

def Word.greatest : Word → Int
  | .unsigned64 => Int.pow 2 64 - 1
  | .signed64 => Int.pow 2 63 - 1
  | .unsigned128 => Int.pow 2 128 - 1
  | .signed128 => Int.pow 2 127 - 1

/-- How a list came about. -/
inductive Making
  | written
  /-- From other values, by so many additions of lists, one of the sum of another. -/
  | computed (additions : Nat)
  deriving DecidableEq, Repr

/-- Which list or map it is of those that hold the same.  Only what is made while a
    template runs can hold something that is not equal to itself, and is numbered. -/
inductive Identity
  | unknown
  | made (number : Nat)
  | loop (number : Nat)
  deriving DecidableEq, Repr

/-- Whether both are the same list or map, as far as that is known. -/
def Identity.same (i j : Identity) : Bool := i ≠ .unknown && i = j

/-- What a map is for. -/
inductive MapRole
  | plain
  /-- The named arguments of a call. -/
  | arguments
  /-- What an imported template defines, with the text that it printed. -/
  | imported (text : String)
  deriving DecidableEq, Repr

/-- `n` copies of a list one after the other. -/
def copiesOf {α : Type} (n : Nat) (xs : List α) : List α :=
  if xs.isEmpty then [] else (List.replicate n xs).flatten

inductive Value
  | undefined
  /-- What a condition without an alternative gives when it does not hold. -/
  | nothing
  | none
  | bool (b : Bool)
  | int (n : Int) (word : Word)
  | float (x : Float)
  /-- A text; a safe one is not escaped when it is printed. -/
  | string (s : String) (safe : Bool)
  | list (items : List Value) (making : Making) (identity : Identity)
  /-- A list some times over, which may be too long to be written out. -/
  | copies (items : List Value) (times : Nat) (identity : Identity)
  /-- Keys and values, in increasing order of the keys. -/
  | map (entries : List (Value × Value)) (role : MapRole) (identity : Identity)
  /-- A loop with the items before and after the present one. -/
  | loop (state : LoopState) (previous next : Value)
  /-- A procedure that a template defines, by its number. -/
  | procedure (name : String) (parameters : List String) (wantsCaller : Bool) (number : Nat)
  /-- A function of the environment, by the name under which it prints. -/
  | function (name : String)
  deriving Inhabited

namespace Value

def text (s : String) : Value := .string s false

/-- A number of things. -/
def count (n : Nat) : Value := .int n .unsigned64

/-- An integer written in a template. -/
def written (n : Nat) : Value := .int n (if n < Nat.pow 2 64 then .unsigned64 else .unsigned128)

/-- The result of a calculation. -/
def result (n : Int) : Value :=
  .int n (if -Int.pow 2 63 ≤ n && n < Int.pow 2 63 then .signed64 else .signed128)

def sequence (items : List Value) : Value := .list items .written .unknown

def computed (items : List Value) : Value := .list items (.computed 0) .unknown

/-- The value with an identity, if it is a list or map that has none. -/
def identified (identity : Identity) : Value → Value
  | .list items making .unknown => .list items making identity
  | .copies items times .unknown => .copies items times identity
  | .map entries role .unknown => .map entries role identity
  | v => v

def isUndefined : Value → Bool
  | .undefined | .nothing => true
  | _ => false

def isSafe : Value → Bool
  | .string _ safe => safe
  | _ => false

/-! ## Kinds -/

/-- What sort of value it is; values of different sorts compare by their sorts. -/
inductive Kind
  | undefined
  | none
  | bool
  | number
  | string
  | sequence
  | map
  | iterator
  | object
  deriving DecidableEq, Repr

def Kind.rank : Kind → Nat
  | .undefined => 0
  | .none => 1
  | .bool => 2
  | .number => 3
  | .string => 4
  | .sequence => 5
  | .map => 6
  | .iterator => 7
  | .object => 8

def Kind.name : Kind → String
  | .undefined => "undefined"
  | .none => "none"
  | .bool => "bool"
  | .number => "number"
  | .string => "string"
  | .sequence => "sequence"
  | .map => "map"
  | .iterator => "iterator"
  | .object => "plain object"

/-- The sort of a list. -/
def listKind : Making → Kind
  | .written => .sequence
  | .computed _ => .iterator

def kind : Value → Kind
  | .undefined | .nothing => .undefined
  | .none => .none
  | .bool _ => .bool
  | .int .. | .float _ => .number
  | .string .. => .string
  | .list _ making _ => listKind making
  | .copies .. => .iterator
  | .map .. | .loop .. | .procedure .. => .map
  | .function _ => .object

/-! ## Fields -/

/-- What a loop tells about itself. -/
def loopFields (s : LoopState) (previous next : Value) : List (Value × Value) :=
  [(text "index0", count s.index0),
    (text "index", count (s.index0 + 1)),
    (text "length", count s.length),
    (text "revindex", count (s.length - s.index0)),
    (text "revindex0", count (s.length - s.index0 - 1)),
    (text "first", .bool (s.index0 = 0)),
    (text "last", .bool (s.index0 + 1 = s.length)),
    (text "depth", count (s.depth0 + 1)),
    (text "depth0", count s.depth0),
    (text "previtem", previous),
    (text "nextitem", next)]

def procedureFields (name : String) (parameters : List String) (wantsCaller : Bool) :
    List (Value × Value) :=
  [(text "name", text name),
    (text "arguments", computed (parameters.map text)),
    (text "caller", .bool wantsCaller)]

/-- The keys and values of a map or of what counts as one. -/
def entries? : Value → Option (List (Value × Value))
  | .map entries .. => some entries
  | .loop s previous next => some (loopFields s previous next)
  | .procedure name parameters wantsCaller _ => some (procedureFields name parameters wantsCaller)
  | _ => Option.none

mutual

/-- The value with maps of their fields in place of loops and procedures, and with
    all copies written out. -/
def withFields : Value → Value
  | .list items making identity => .list (itemsWithFields items) making identity
  | .copies items times identity =>
    .list (copiesOf times (itemsWithFields items)) (.computed 0) identity
  | .map entries role identity => .map (entriesWithFields entries) role identity
  | .loop s previous next =>
    .map (loopFields s previous.withFields next.withFields) .plain (.loop s.number)
  | .procedure name parameters wantsCaller _ =>
    .map (procedureFields name parameters wantsCaller) .plain .unknown
  | v => v

def itemsWithFields : List Value → List Value
  | [] => []
  | v :: rest => v.withFields :: itemsWithFields rest

def entriesWithFields : List (Value × Value) → List (Value × Value)
  | [] => []
  | (k, v) :: rest => (k.withFields, v.withFields) :: entriesWithFields rest

end

/-- The items of a list or the keys of a map. -/
def items? : Value → Option (List Value)
  | .list items .. => some items
  | .copies items times _ => some (copiesOf times items)
  | v => v.entries?.map fun entries => entries.map Prod.fst

/-! ## From JSON -/

mutual

def ofJson : Json → Value
  | .null => .none
  | .bool b => .bool b
  | .int n => .int n (if 0 ≤ n then .unsigned64 else .signed64)
  | .float x => .float x
  | .string s => text s
  | .array items => sequence (ofJsonItems items)
  | .object fields => .map (ofJsonFields fields) .plain .unknown

def ofJsonItems : List Json → List Value
  | [] => []
  | j :: rest => ofJson j :: ofJsonItems rest

def ofJsonFields : List (String × Json) → List (Value × Value)
  | [] => []
  | (name, j) :: rest => (text name, ofJson j) :: ofJsonFields rest

end

/-! ## Text -/

def boolText (b : Bool) : String := if b then "True" else "False"

mutual

/-- The text of a value inside a list or map. -/
def nestedText : Value → String
  | .undefined | .nothing => "undefined"
  | .none => "None"
  | .bool b => boolText b
  | .int n _ => toString n
  | .float x => Decimal.Layout.nested.text x
  | .string s _ => Text.quoted s
  | .list items .. => "[" ++ ", ".intercalate (nestedTexts items) ++ "]"
  | .copies items times _ => "[" ++ ", ".intercalate (copiesOf times (nestedTexts items)) ++ "]"
  | .map _ (.imported text) _ => text
  | .map entries .. => "\x7b" ++ ", ".intercalate (entryTexts entries) ++ "\x7d"
  | .loop s _ _ => "<loop " ++ toString s.index0 ++ "/" ++ toString s.length ++ ">"
  | .procedure name _ _ _ => "<macro " ++ name ++ ">"
  | .function name => name

def nestedTexts : List Value → List String
  | [] => []
  | v :: rest => nestedText v :: nestedTexts rest

def entryTexts : List (Value × Value) → List String
  | [] => []
  | (k, v) :: rest => (nestedText k ++ ": " ++ nestedText v) :: entryTexts rest

end

/-- The text of a value on its own: a string is itself, a missing value nothing. -/
def toText : Value → String
  | .undefined | .nothing => ""
  | .string s _ => s
  | .float x => Decimal.Layout.positional.text x
  | v => v.nestedText

/-! ## Truth -/

/-- Whether a condition holds of a value; a missing value is no condition. -/
def isTrue : Value → Bool
  | .undefined | .nothing | .none => false
  | .bool b => b
  | .int n _ => n != 0
  | .float x => x != 0.0
  | .string s _ => !s.isEmpty
  | .list items .. => !items.isEmpty
  | .copies items times _ => times != 0 && !items.isEmpty
  | .map entries .. => !entries.isEmpty
  | .loop .. | .procedure .. | .function _ => true

end Value

end RenderChain.Jinja
