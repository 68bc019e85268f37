/-
  RenderChain/Yaml/Cursor.lean
  ============================
  **Characters and places of a YAML text.**

  A cursor is a place in the text: what comes next, and the line and column that
  indentation is counted in.
-/
namespace RenderChain.Yaml

/-! ## Characters -/

def isBlank (c : Char) : Bool := c = ' ' || c = '\t'

def isBreak (c : Char) : Bool :=
  c = '\n' || c = '\r' || c = '\u0085' || c = '\u2028' || c = '\u2029'

/-- Whether the text starts with white space or is at its end. -/
def atBlank (cs : List Char) : Bool := cs.head?.all fun c => isBlank c || isBreak c

def atBreak (cs : List Char) : Bool := cs.head?.all isBreak

/-- The characters that a document may hold. -/
def isAllowed (c : Char) : Bool :=
  let n := c.toNat
  n = 0x09 || n = 0x0A || n = 0x0D || (0x20 ≤ n && n ≤ 0x7E) || n = 0x85 ||
    (0xA0 ≤ n && n ≤ 0xFFFD) || 0x10000 ≤ n

/-- The characters of the names of anchors, handles and directives. -/
def isNameChar (c : Char) : Bool := c.isAlphanum || c = '_' || c = '-'

/-- The character of a number, unless it is a surrogate or too large. -/
def charOf? (n : Nat) : Option Char :=
  if n.isValidChar then some (Char.ofNat n) else none

/-! ## Positions -/

/-- A place in the text. -/
structure Cursor where
  rest : List Char
  /-- The bytes in front of it. -/
  index : Nat
  line : Nat
  column : Nat

namespace Cursor

/-- Past a character that is no line break. -/
def skip (c : Cursor) : Cursor :=
  { c with
    rest := c.rest.tail
    index := c.index + (c.rest.head?.map Char.utf8Size).getD 1
    column := c.column + 1 }

def skipN (c : Cursor) : Nat → Cursor
  | 0 => c
  | n + 1 => c.skip.skipN n

/-- Past a line break, and the break as it counts in a scalar. -/
def takeBreak (c : Cursor) : List Char × Cursor :=
  match c.rest with
  | '\r' :: '\n' :: rest => (['\n'], ⟨rest, c.index + 2, c.line + 1, 0⟩)
  | b :: rest =>
    (if b = '\u2028' ∨ b = '\u2029' then [b] else ['\n'],
      ⟨rest, c.index + b.utf8Size, c.line + 1, 0⟩)
  | [] => ([], c)

/-- Past the characters at the front with a property. -/
def skipWhile (c : Cursor) (p : Char → Bool) : Cursor :=
  c.skipN (c.rest.takeWhile p).length

/-- Whether a document marker stands here: three characters at the start of a line. -/
def atMarker (c : Cursor) : Bool :=
  c.column = 0 &&
    match c.rest with
    | a :: b :: d :: rest =>
      ((a = '-' && b = '-' && d = '-') || (a = '.' && b = '.' && d = '.')) && atBlank rest
    | _ => false

end Cursor

end RenderChain.Yaml
