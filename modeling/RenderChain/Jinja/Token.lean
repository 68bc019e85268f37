/-
  RenderChain/Jinja/Token.lean
  ============================
  **Tokens of a template.**

  Outside of tags a template is text; `{{`, `{%` and `{#` open a tag for an
  expression, a statement and a comment.  A minus sign next to the inside of a
  tag removes the white space on its other side.  Between `{% raw %}` and
  `{% endraw %}` nothing opens a tag.

  `scan` reads the whole template.  Where it cannot go on it stops with a fault,
  and the tokens before stay: a template with two mistakes is blamed for the
  first one, which may well be a mistake of its grammar.
-/
import RenderChain.Decimal
import RenderChain.Jinja.Fault
import RenderChain.Text.Unicode

namespace RenderChain.Jinja

inductive Token
  | data (text : String)
  | openExpr
  | closeExpr
  | openTag
  | closeTag
  | ident (name : String)
  /-- A text, and whether it is written with escapes. -/
  | string (s : String) (escaped : Bool)
  | int (n : Nat)
  | float (x : Float)
  | symbol (text : String)
  deriving BEq

/-- A token and the line where it starts. -/
structure Located where
  token : Token
  line : Nat

/-- A fault of the text itself, and its line. -/
structure ScanFault where
  kind : FaultKind
  line : Nat
  deriving DecidableEq, Repr

namespace Token

/-- Lines are counted up to this one, which is the line of all that follows. -/
def lastLine : Nat := 65535

/-- The line where a text ends that starts at a line. -/
def endLine (line : Nat) (cs : List Char) : Nat := min (line + cs.count '\n') lastLine

def isSpace (c : Char) : Bool :=
  c = ' ' || c = '\t' || c = '\n' || c = '\r' || c = '\x0c'

def skipSpace (cs : List Char) : List Char := cs.dropWhile isSpace

/-- The text after `word`, if it starts with it. -/
def after? (word : String) (cs : List Char) : Option (List Char) :=
  if word.toList.isPrefixOf cs then some (cs.drop word.length) else none

/-- The text before and after the first `mark`. -/
def cutAt? (mark : List Char) : List Char → Option (List Char × List Char)
  | [] => none
  | c :: rest =>
    if mark.isPrefixOf (c :: rest) then some ([], (c :: rest).drop mark.length)
    else (cutAt? mark rest).map fun p => (c :: p.1, p.2)

/-! ## Inside of a tag -/

inductive Mode
  /-- Outside of tags; `trim` removes the white space that comes next. -/
  | text (trim : Bool)
  /-- Inside of a tag for a statement or an expression, with so many open brackets. -/
  | tag (statement : Bool) (brackets : Int)

def isWordStart (c : Char) : Bool := c.isAlpha || c = '_'

def isWordPart (c : Char) : Bool := c.isAlphanum || c = '_'

def symbols : List String :=
  ["//", "**", "==", "!=", ">=", "<=", "+", "-", "*", "/", "%", ".", ",", ":", "~", "|", "=", ">",
    "<", "(", ")", "[", "]", "\x7b", "\x7d"]

/-- How a symbol changes the number of open brackets. -/
def bracketChange (symbol : String) : Int :=
  if symbol ∈ ["(", "[", "\x7b"] then 1 else if symbol ∈ [")", "]", "\x7d"] then -1 else 0

/-- The text after the end of a tag, and whether the end has a minus sign. -/
def closing? (statement : Bool) (cs : List Char) : Option (Bool × List Char) :=
  let mark := if statement then "%\x7d" else "\x7d\x7d"
  match cs with
  | '-' :: rest => (after? mark rest).map (true, ·)
  | '+' :: rest => (after? mark rest).map (false, ·)
  | cs => (after? mark cs).map (false, ·)

/-! ### Strings -/

/-- The characters up to the closing mark, escapes untouched, and the rest. -/
def quotedRun (mark : Char) : List Char → Option (List Char × List Char)
  | [] => none
  | '\\' :: c :: rest => (quotedRun mark rest).map fun p => ('\\' :: c :: p.1, p.2)
  | c :: rest =>
    if c = mark then some ([], rest) else (quotedRun mark rest).map fun p => (c :: p.1, p.2)

/-- The number that so many characters are in base sixteen; the first may be a plus sign. -/
def hexNumber? (count : Nat) (cs : List Char) : Option (Nat × List Char) := do
  let digits := cs.take count
  if digits.length < count then none
  let n ← Decimal.digits? 16 (if digits.head? = some '+' then digits.drop 1 else digits)
  return (n, cs.drop count)

/-- A character after `\u`, as one number or as a pair of surrogates. -/
def unicode? (cs : List Char) : Option (Char × List Char) := do
  let (high, rest) ← hexNumber? 4 cs
  if high < 0xD800 ∨ 0xDFFF < high then return (Char.ofNat high, rest)
  if 0xDC00 ≤ high then none
  match rest with
  | '\\' :: 'u' :: rest =>
    let (low, rest) ← hexNumber? 4 rest
    if low < 0xDC00 ∨ 0xDFFF < low then none
    return (Char.ofNat (0x10000 + (high - 0xD800) * 0x400 + (low - 0xDC00)), rest)
  | _ => none

/-- A character of one byte given by up to three octal digits. -/
def octal? (cs : List Char) : Option (Char × List Char) := do
  let digits := (cs.take 3).takeWhile fun c => '0' ≤ c && c ≤ '7'
  let n ← (Decimal.digits? 8 digits).filter (· < 256)
  return (Char.ofNat n, cs.drop digits.length)

/-- The text that a run of characters with escapes stands for.  A backslash
    before a character that makes no escape stands for itself. -/
def unescape : (fuel : Nat) → List Char → Option (List Char)
  | _, [] => some []
  | 0, _ => none
  | fuel + 1, '\\' :: c :: rest =>
    match c with
    | '"' | '\\' | '/' | '\'' => (unescape fuel rest).map (c :: ·)
    | 'b' => (unescape fuel rest).map ('\x08' :: ·)
    | 'f' => (unescape fuel rest).map ('\x0c' :: ·)
    | 'n' => (unescape fuel rest).map ('\n' :: ·)
    | 'r' => (unescape fuel rest).map ('\r' :: ·)
    | 't' => (unescape fuel rest).map ('\t' :: ·)
    | 'u' => do
      let (c, rest) ← unicode? rest
      return c :: (← unescape fuel rest)
    | 'x' => do
      let (n, rest) ← hexNumber? 2 rest
      return Char.ofNat n :: (← unescape fuel rest)
    | c =>
      if '0' ≤ c && c ≤ '7' then do
        let (c, rest) ← octal? (c :: rest)
        return c :: (← unescape fuel rest)
      else (unescape fuel rest).map fun cs => '\\' :: c :: cs
  | _, ['\\'] => none
  | fuel + 1, c :: rest => (unescape fuel rest).map (c :: ·)

/-! ### Numbers -/

inductive NumberPart
  | whole
  | radix (base : Nat)
  | fraction
  | exponent
  | exponentDigits
  deriving DecidableEq

/-- Whether a text starts with an exponent. -/
def startsExponent : List Char → Bool
  | e :: c :: _ =>
    Decimal.isExponentMark e && (c.isDigit || c = '+' || c = '-')
  | _ => false

/-- The part of a number that a character leads to, if it belongs to the number.
    A period before a name does not: it asks for an attribute. -/
def NumberPart.next? (p : NumberPart) (c : Char) (after : List Char) : Option NumberPart :=
  match p with
  | .whole =>
    if c = '.' then
      if after.head?.any isWordStart && !startsExponent after then none else some .fraction
    else if c = 'e' ∨ c = 'E' then some .exponent
    else if c.isDigit ∨ c = '_' then some .whole
    else none
  | .radix base =>
    if c.isDigit ∨ c = '_' ∨ (base = 16 ∧ (Text.hexValue? c).isSome) then some (.radix base)
    else none
  | .fraction =>
    if c = 'e' ∨ c = 'E' then some .exponent
    else if c.isDigit ∨ c = '_' then some .fraction
    else none
  | .exponent =>
    if c = '+' ∨ c = '-' ∨ c.isDigit then some .exponentDigits
    else if c = '_' then some .exponent
    else none
  | .exponentDigits => if c.isDigit ∨ c = '_' then some .exponentDigits else none

/-- The characters of a number, its last part, and the rest. -/
def numberRun (p : NumberPart) : List Char → List Char × NumberPart × List Char
  | [] => ([], p, [])
  | c :: rest =>
    match p.next? c rest with
    | none => ([], p, c :: rest)
    | some q =>
      let (cs, last, rest) := numberRun q rest
      (c :: cs, last, rest)

/-- A number at the start of the text, which starts with a digit.  Underscores
    may stand between the digits, but not at the end. -/
def number? (cs : List Char) : Option Token × List Char :=
  let digitsOf (run : List Char) : List Char :=
    if run.getLast? = some '_' then [] else run.filter (· ≠ '_')
  let base := match cs with
    | '0' :: 'b' :: _ | '0' :: 'B' :: _ => some 2
    | '0' :: 'o' :: _ | '0' :: 'O' :: _ => some 8
    | '0' :: 'x' :: _ | '0' :: 'X' :: _ => some 16
    | _ => none
  match base with
  | some base =>
    let (run, _, rest) := numberRun (.radix base) (cs.drop 2)
    (((Decimal.digits? base (digitsOf run)).filter (· < Nat.pow 2 128)).map .int, rest)
  | none =>
    let (run, last, rest) := numberRun .whole cs
    let digits := digitsOf run
    if last = .whole then (((Decimal.digits? 10 digits).filter (· < Nat.pow 2 128)).map .int, rest)
    else ((Decimal.float? digits).map .float, rest)

/-! ### One token -/

/-- The next token inside of a tag, the line where it ends, and the rest. -/
def next? (line : Nat) (cs : List Char) : Except ScanFault (Token × Nat × List Char) :=
  match cs with
  | [] => .error ⟨.syntaxError, line⟩
  | c :: rest =>
    if isWordStart c then
      .ok (.ident (String.ofList (cs.takeWhile isWordPart)), line, cs.dropWhile isWordPart)
    else if c.isDigit then
      match number? cs with
      | (some token, rest) => .ok (token, line, rest)
      | (none, _) => .error ⟨.syntaxError, line⟩
    else if c = '"' ∨ c = '\'' then
      match quotedRun c rest with
      | none => .error ⟨.syntaxError, endLine line rest⟩
      | some (run, rest) =>
        match unescape run.length run with
        | some s => .ok (.string (String.ofList s) (run.contains '\\'), endLine line run, rest)
        | none => .error ⟨.badEscape, line⟩
    else
      match symbols.find? fun s => s.toList.isPrefixOf cs with
      | some s => .ok (.symbol s, line, cs.drop s.length)
      | none => .error ⟨.syntaxError, line⟩

/-! ## Outside of tags -/

/-- The text up to the first opening of a tag, and the character that tells its sort. -/
def cutAtTag : List Char → List Char × Option (Char × List Char)
  | [] => ([], none)
  | '{' :: c :: rest =>
    if c = '{' ∨ c = '%' ∨ c = '#' then ([], some (c, rest))
    else
      let (before, found) := cutAtTag (c :: rest)
      ('{' :: before, found)
  | c :: rest =>
    let (before, found) := cutAtTag rest
    (c :: before, found)

/-- A tag that holds one word only: the text after it, whether its start and its
    end have minus signs. -/
def wordTag? (word : String) (cs : List Char) : Option (Bool × Bool × List Char) := do
  let (trimBefore, cs) := match cs with
    | '-' :: rest => (true, rest)
    | '+' :: rest => (false, rest)
    | cs => (false, cs)
  let rest ← after? word (skipSpace cs)
  let (trimAfter, rest) ← closing? true (skipSpace rest)
  return (trimBefore, trimAfter, rest)

/-- The text up to `{% endraw %}`: the text itself, the two signs of the tag, and the rest. -/
def rawText? : List Char → Option (List Char × Bool × Bool × List Char)
  | [] => none
  | c :: rest =>
    let found := if c = '{' then (after? "%" rest).bind (wordTag? "endraw") else none
    match found with
    | some (trimBefore, trimAfter, rest) => some ([], trimBefore, trimAfter, rest)
    | none => (rawText? rest).map fun p => (c :: p.1, p.2)

def dataToken (line : Nat) (cs : List Char) : List Located :=
  if cs.isEmpty then [] else [⟨.data (String.ofList cs), line⟩]

/-! ## The whole template -/

/-- What was scanned, and the fault that stopped it. -/
abbrev Scanned := List Located × Option ScanFault

def Scanned.prepend (tokens : List Located) (s : Scanned) : Scanned := (tokens ++ s.1, s.2)

/-- Scans from a line on.  Every step takes at least one character or leaves a
    tag, so the fuel need not be more than twice the length of the text. -/
def scanFrom : (fuel : Nat) → Mode → (line : Nat) → List Char → Scanned
  | 0, _, _, _ => ([], none)
  | _, _, _, [] => ([], none)
  | fuel + 1, .text trim, line, cs =>
    let shown := if trim then Text.trimStart cs else cs
    let line := if trim then endLine line (cs.takeWhile Text.isBlank) else line
    let (before, found) := cutAtTag shown
    match found with
    | none => (dataToken line before, none)
    | some (sort, inside) =>
      let trimBefore := inside.head? = some '-'
      let kept := if trimBefore then Text.trimEnd before else before
      let tagLine := endLine line before
      Scanned.prepend (dataToken line kept) <|
        if sort = '#' then
          let body := if trimBefore ∨ inside.head? = some '+' then inside.drop 1 else inside
          match cutAt? ['#', '}'] body with
          | none => ([], some ⟨.syntaxError, endLine tagLine inside⟩)
          | some (comment, rest) =>
            scanFrom fuel (.text (comment.getLast? = some '-')) (endLine tagLine comment) rest
        else
          let body := if trimBefore ∨ inside.head? = some '+' then inside.drop 1 else inside
          if sort = '{' then
            Scanned.prepend [⟨.openExpr, tagLine⟩] (scanFrom fuel (.tag false 0) tagLine body)
          else
            match wordTag? "raw" inside with
            | none =>
              Scanned.prepend [⟨.openTag, tagLine⟩] (scanFrom fuel (.tag true 0) tagLine body)
            | some (_, trimAfter, rest) =>
              let rawLine := endLine tagLine (inside.take (inside.length - rest.length))
              match rawText? rest with
              | none => ([], some ⟨.syntaxError, endLine rawLine rest⟩)
              | some (raw, endTrimBefore, endTrimAfter, after) =>
                let shown := if trimAfter then Text.trimStart raw else raw
                let shown := if endTrimBefore then Text.trimEnd shown else shown
                Scanned.prepend (dataToken rawLine shown) <|
                  scanFrom fuel (.text endTrimAfter)
                    (endLine rawLine (rest.take (rest.length - after.length))) after
  | fuel + 1, .tag statement brackets, line, cs =>
    let shown := skipSpace cs
    let line := endLine line (cs.takeWhile isSpace)
    match (if brackets = 0 then closing? statement shown else none) with
    | some (trim, rest) =>
      Scanned.prepend [⟨if statement then .closeTag else .closeExpr, line⟩]
        (scanFrom fuel (.text trim) line rest)
    | none =>
      if shown.isEmpty then ([], none)
      else
        match next? line shown with
        | .error fault => ([], some fault)
        | .ok (token, next, rest) =>
          let change := match token with
            | .symbol s => bracketChange s
            | _ => 0
          Scanned.prepend [⟨token, line⟩]
            (scanFrom fuel (.tag statement (brackets + change)) next rest)

/-- The text without `c` at its end. -/
def withoutLast (c : Char) (cs : List Char) : List Char :=
  if cs.getLast? = some c then cs.dropLast else cs

/-- The template without a line end at its end. -/
def withoutLastLineEnd (cs : List Char) : List Char := withoutLast '\r' (withoutLast '\n' cs)

/-- The tokens of a template. -/
def scan (source : String) : Scanned :=
  let cs := withoutLastLineEnd source.toList
  scanFrom (2 * cs.length + 1) (.text false) 1 cs

end Token

end RenderChain.Jinja
