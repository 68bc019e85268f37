/-
  RenderChain/Yaml/Scalar.lean
  ============================
  **The texts of scalars.**

  A scalar is plain, in quotation marks, or a block of indented lines.  Line
  breaks inside of one are folded: one becomes a space, and several are one
  less.  Only literal blocks keep their lines.
-/
import RenderChain.Decimal
import RenderChain.Yaml.Cursor

namespace RenderChain.Yaml

/-- Whether a scalar stands in the text as it is; blocks count as quoted. -/
inductive ScalarStyle
  | plain
  | quoted
  deriving DecidableEq, Repr

/-! ## Flow scalars -/

/-- The white space between two parts of a scalar. -/
inductive Gap
  | blanks (cs : List Char)
  /-- The first line break, and the further ones. -/
  | breaks (first others : List Char)

/-- What a gap counts as: one line break is a space, and more are one less. -/
def Gap.text : Gap → List Char
  | .blanks cs => cs
  | .breaks first others =>
    if first = ['\n'] then (if others.isEmpty then [' '] else others) else first ++ others

/-- Reads white space; a tab in front of the column `indent` of a further line is
    no indentation. -/
def readGap (indent : Nat) : (fuel : Nat) → Gap → Cursor → Option (Gap × Cursor)
  | 0, g, c => some (g, c)
  | fuel + 1, g, c =>
    match c.rest with
    | [] => some (g, c)
    | ch :: _ =>
      if isBlank ch then
        match g with
        | .blanks cs => readGap indent fuel (.blanks (cs ++ [ch])) c.skip
        | g => if ch = '\t' ∧ c.column < indent then none else readGap indent fuel g c.skip
      else if isBreak ch then
        let (b, c) := c.takeBreak
        match g with
        | .blanks _ => readGap indent fuel (.breaks b []) c
        | .breaks first others => readGap indent fuel (.breaks first (others ++ b)) c
      else some (g, c)

/-- The number of digits after an escape letter. -/
def escapeDigits? : Char → Option Nat
  | 'x' => some 2
  | 'u' => some 4
  | 'U' => some 8
  | _ => none

/-- What a letter after a backslash stands for. -/
def escapeLetter? : Char → Option Char
  | '0' => some '\x00'
  | 'a' => some '\x07'
  | 'b' => some '\x08'
  | 't' | '\t' => some '\t'
  | 'n' => some '\n'
  | 'v' => some '\x0b'
  | 'f' => some '\x0c'
  | 'r' => some '\r'
  | 'e' => some '\x1b'
  | ' ' => some ' '
  | '"' => some '"'
  | '/' => some '/'
  | '\\' => some '\\'
  | 'N' => some '\u0085'
  | '_' => some '\u00a0'
  | 'L' => some '\u2028'
  | 'P' => some '\u2029'
  | _ => none

/-- The text of a quoted scalar up to its closing mark. -/
def readQuoted (single : Bool) : (fuel : Nat) → Cursor → Option (List Char × Cursor)
  | 0, _ => none
  | fuel + 1, c =>
    if c.atMarker then none
    else
      match c.rest with
      | [] => none
      | ch :: rest =>
        let more (text : List Char) (c : Cursor) : Option (List Char × Cursor) :=
          (readQuoted single fuel c).map fun p => (text ++ p.1, p.2)
        if isBlank ch ∨ isBreak ch then do
          let (g, c) ← readGap 0 fuel (.blanks []) c
          more g.text c
        else if single then
          if ch = '\'' then
            if rest.head? = some '\'' then more ['\''] (c.skipN 2) else some ([], c.skip)
          else more [ch] c.skip
        else if ch = '"' then some ([], c.skip)
        else if ch = '\\' then
          match rest with
          | [] => none
          | e :: rest =>
            if isBreak e then do
              let (g, c) ← readGap 0 fuel (.breaks [] []) c.skip.takeBreak.2
              more g.text c
            else
              match escapeDigits? e with
              | some n => do
                if rest.length < n then none
                let code ← Decimal.digits? 16 (rest.take n)
                more [← charOf? code] (c.skipN (n + 2))
              | none => do more [← escapeLetter? e] (c.skipN 2)
        else more [ch] c.skip

/-! ## Plain scalars -/

def isFlowMark (c : Char) : Bool := c = ',' || c = '[' || c = ']' || c = '{' || c = '}'

/-- The rest of a plain scalar, and whether it ended after a line break. -/
def readPlain (flow : Bool) (indent : Nat) : (fuel : Nat) → Cursor →
    Option (List Char × Bool × Cursor)
  | 0, _ => none
  | fuel + 1, c =>
    match c.rest with
    | [] => some ([], false, c)
    | ch :: rest =>
      if isBlank ch ∨ isBreak ch then do
        let (g, after) ← readGap indent fuel (.blanks []) c
        let broken := match g with
          | .blanks _ => false
          | .breaks .. => true
        let ends : Bool :=
          (!flow && broken && after.column < indent) || after.atMarker ||
            after.rest.isEmpty || after.rest.head? = some '#' || endsHere after.rest
        if flow && !after.rest.isEmpty && badColon after.rest then none
        else if ends then some ([], broken, after)
        else
          (readPlain flow indent fuel after).map fun p => (g.text ++ p.1, p.2)
      else if flow && badColon (ch :: rest) then none
      else if endsHere (ch :: rest) then some ([], false, c)
      else (readPlain flow indent fuel c.skip).map fun p => (ch :: p.1, p.2)
where
  endsHere : List Char → Bool
    | [] => true
    | ch :: rest => (ch = ':' && atBlank rest) || (flow && isFlowMark ch)
  badColon : List Char → Bool
    | ':' :: ch :: _ => isFlowMark ch || ch = '?'
    | _ => false

/-! ## Block scalars -/

/-- What happens to the line breaks at the end of a block scalar. -/
inductive Chomping
  | strip
  | clip
  | keep
  deriving DecidableEq

def chomping? : Char → Option Chomping
  | '+' => some .keep
  | '-' => some .strip
  | _ => none

/-- The chomping and the indentation in the header of a block scalar, and the rest. -/
def header (c : Cursor) : Option (Chomping × Nat × Cursor) :=
  let digit (c : Cursor) : Option (Nat × Cursor) :=
    match c.rest with
    | d :: _ =>
      if d.isDigit then (if d = '0' then none else some (d.toNat - 48, c.skip)) else some (0, c)
    | [] => some (0, c)
  match c.rest.head?.bind chomping? with
  | some chomping => (digit c.skip).map fun p => (chomping, p.1, p.2)
  | none => do
    let (n, c) ← digit c
    if n = 0 then return (.clip, 0, c)
    match c.rest.head?.bind chomping? with
    | some chomping => return (chomping, n, c.skip)
    | none => return (.clip, n, c)

/-- Empty lines in front of a line of a block scalar: their breaks, and how far
    spaces reach in them.  Without an indentation all spaces are taken. -/
def emptyLines (indent : Nat) : (fuel : Nat) → (widest : Nat) → Cursor →
    Option (List Char × Nat × Cursor)
  | 0, widest, c => some ([], widest, c)
  | fuel + 1, widest, c =>
    match c.rest with
    | ' ' :: _ =>
      if indent = 0 ∨ c.column < indent then emptyLines indent fuel widest c.skip
      else some ([], max widest c.column, c)
    | ch :: _ =>
      if ch = '\t' ∧ (indent = 0 ∨ c.column < indent) then none
      else if isBreak ch then
        let (b, next) := c.takeBreak
        (emptyLines indent fuel (max widest c.column) next).map fun p => (b ++ p.1, p.2)
      else some ([], max widest c.column, c)
    | [] => some ([], max widest c.column, c)

/-- The lines of a block scalar.  `lineBreak` is the break before this line and
    `empty` the breaks of the empty lines before it. -/
def readLines (literal : Bool) (chomping : Chomping) (indent : Nat) : (fuel : Nat) →
    (lineBreak : List Char) → (wasBlank : Bool) → (empty : List Char) → Cursor →
    Option (List Char × Cursor)
  | 0, _, _, _, _ => none
  | fuel + 1, lineBreak, wasBlank, empty, c =>
    if c.column = indent ∧ ¬ c.rest.isEmpty then do
      let blank := c.rest.head?.any isBlank
      let joint :=
        if !literal && lineBreak = ['\n'] && !wasBlank && !blank then
          (if empty.isEmpty then [' '] else empty)
        else lineBreak ++ empty
      let line := c.rest.takeWhile fun ch => !isBreak ch
      let (b, next) := (c.skipN line.length).takeBreak
      let (breaks, _, next) ← emptyLines indent next.rest.length 0 next
      let (rest, next) ← readLines literal chomping indent fuel b blank breaks next
      return (joint ++ line ++ rest, next)
    else
      some
        (match chomping with
          | .strip => []
          | .clip => lineBreak
          | .keep => lineBreak ++ empty, c)

/-- A block scalar after its mark, inside of blocks indented by `outer`. -/
def readBlock (literal : Bool) (outer : Int) (c : Cursor) : Option (List Char × Cursor) := do
  let (chomping, step, c) ← header c
  let c := c.skipWhile isBlank
  let c := if c.rest.head? = some '#' then c.skipWhile fun ch => !isBreak ch else c
  if !atBreak c.rest then none
  let start := c.takeBreak.2
  let given := if step = 0 then 0 else (max outer 0).toNat + step
  let (breaks, widest, next) ← emptyLines given start.rest.length 0 start
  let indent := if step = 0 then max (max widest (outer + 1).toNat) 1 else given
  readLines literal chomping indent (c.rest.length + 1) [] false breaks next

end RenderChain.Yaml
