/-
  RenderChain/Yaml/Tag.lean
  =========================
  **Tags and directives.**

  A tag in front of a value names its type.  It is written in full as `!<…>`, or
  with a handle that stands for the front of its name: `!`, `!!` or `!name!`.
  Directives stand before a document and say which version it is written in and
  what its handles stand for.
-/
import RenderChain.Decimal
import RenderChain.Yaml.Cursor

namespace RenderChain.Yaml

/-! ## Names of tags -/

/-- The tag of a name of the core schema. -/
def coreTag (name : String) : String := "tag:yaml.org,2002:" ++ name

/-- What the handles stand for that need no directive. -/
def standardHandles : List (String × String) := [("!", "!"), ("!!", coreTag "")]

/-- The tag itself if it belongs to the document, as those do that start with `!`. -/
def localTag? (tag : Option String) : Option String :=
  tag.filter fun t => t.toList.head? = some '!'

/-- Characters of tags; some only stand in a tag that is written in full. -/
def isTagChar (full : Bool) (c : Char) : Bool :=
  isNameChar c ||
    c ∈ [';', '/', '?', ':', '@', '&', '=', '+', '$', '.', '!', '~', '*', '\'', '(', ')'] ||
    (full && c ∈ [',', '[', ']'])

/-! ## Escapes in tags -/

/-- An octet, as `%` and two hexadecimal digits. -/
def readOctet (c : Cursor) : Option (Nat × Cursor) :=
  match c.rest with
  | '%' :: a :: b :: _ => (Decimal.digits? 16 [a, b]).map fun n => (n, c.skipN 3)
  | _ => none

/-- The number of further octets after the first one of a character, and the
    bits of the character in the first one. -/
def firstOctet (n : Nat) : Option (Nat × Nat) :=
  if n < 0x80 then some (0, n)
  else if n < 0xC0 then none
  else if n < 0xE0 then some (1, n - 0xC0)
  else if n < 0xF0 then some (2, n - 0xE0)
  else if n < 0xF8 then some (3, n - 0xF0)
  else none

/-- Further octets of a character, whose bits so far are `code`. -/
def readOctets : (count : Nat) → (code : Nat) → Cursor → Option (Nat × Cursor)
  | 0, code, c => some (code, c)
  | count + 1, code, c => do
    let (n, c) ← readOctet c
    if n < 0x80 ∨ 0xBF < n then none
    readOctets count (code * 64 + (n - 0x80)) c

/-- A character that is written as its octets. -/
def readEscape (c : Cursor) : Option (Char × Cursor) := do
  let (n, c) ← readOctet c
  let (count, bits) ← firstOctet n
  let (code, c) ← readOctets count bits c
  return (← charOf? code, c)

/-! ## Tags -/

/-- The characters of a tag that come next. -/
def readTagText (full : Bool) : (fuel : Nat) → Cursor → Option (List Char × Cursor)
  | 0, c => some ([], c)
  | fuel + 1, c =>
    match c.rest with
    | [] => some ([], c)
    | ch :: _ =>
      if ch = '%' then do
        let (escaped, next) ← readEscape c
        let (text, next) ← readTagText full fuel next
        return (escaped :: text, next)
      else if isTagChar full ch then
        (readTagText full fuel c.skip).map fun p => (ch :: p.1, p.2)
      else some ([], c)

/-- A `!` with a name after it; the name is closed if another `!` follows. -/
structure Handle where
  name : List Char
  closed : Bool

def Handle.text (h : Handle) : String :=
  String.ofList ('!' :: h.name ++ if h.closed then ['!'] else [])

def readHandle (c : Cursor) : Option (Handle × Cursor) :=
  match c.rest with
  | '!' :: rest =>
    let name := rest.takeWhile isNameChar
    let closed := (rest.drop name.length).head? = some '!'
    some (⟨name, closed⟩, c.skipN (name.length + if closed then 2 else 1))
  | _ => none

/-- A tag in front of a value.  A tag in full has an empty handle, and so has
    the tag `!` alone. -/
structure Tag where
  handle : String
  text : String
  deriving DecidableEq, Repr

def readTag (c : Cursor) : Option (Tag × Cursor) :=
  match c.rest with
  | '!' :: '<' :: rest => do
    let (text, c) ← readTagText true rest.length (c.skipN 2)
    if text.isEmpty ∨ c.rest.head? ≠ some '>' then none
    return (⟨"", String.ofList text⟩, c.skip)
  | rest => do
    let (handle, c) ← readHandle c
    let (text, c) ← readTagText false rest.length c
    if handle.closed then
      if text.isEmpty then none
      return (⟨handle.text, String.ofList text⟩, c)
    match handle.name ++ text with
    | [] => return (⟨"", "!"⟩, c)
    | name => return (⟨"!", String.ofList name⟩, c)

/-- The name of a tag, unless nothing says what its handle stands for. -/
def Tag.name? (handles : List (String × String)) (t : Tag) : Option String :=
  if t.handle.isEmpty then some t.text else (handles.lookup t.handle).map (· ++ t.text)

/-! ## Directives -/

inductive Directive
  | version (major minor : Nat)
  | handle (name meaning : String)
  deriving DecidableEq, Repr

/-- Whether a document may have only one of the two directives. -/
def Directive.clashes : Directive → Directive → Bool
  | .version .., .version .. => true
  | .handle a _, .handle b _ => a = b
  | _, _ => false

/-- Whether documents with this directive can be read. -/
def Directive.isKnown : Directive → Bool
  | .version major minor => major = 1 && (minor = 1 || minor = 2)
  | .handle .. => true

/-- A part of a version number, of nine digits at most. -/
def readVersionPart (c : Cursor) : Option (Nat × Cursor) := do
  let ds := c.rest.takeWhile Char.isDigit
  if 9 < ds.length then none
  return (← Decimal.digits? 10 ds, c.skipN ds.length)

def readVersion (c : Cursor) : Option (Directive × Cursor) := do
  let (major, c) ← readVersionPart c
  if c.rest.head? ≠ some '.' then none
  let (minor, c) ← readVersionPart c.skip
  return (.version major minor, c)

/-- A handle and the front of the tags that are written with it. -/
def readHandleMeaning (c : Cursor) : Option (Directive × Cursor) := do
  let (handle, c) ← readHandle c
  if !handle.closed ∧ !handle.name.isEmpty then none
  if !c.rest.head?.any isBlank then none
  let (text, c) ← readTagText true c.rest.length (c.skipWhile isBlank)
  if text.isEmpty ∨ !atBlank c.rest then none
  return (.handle handle.text (String.ofList text), c)

/-- A directive with its line. -/
def readDirective (c : Cursor) : Option (Directive × Cursor) := do
  let c := c.skip
  let name := c.rest.takeWhile isNameChar
  let c := c.skipN name.length
  if !atBlank c.rest then none
  let c := c.skipWhile isBlank
  let (directive, c) ←
    if name = "YAML".toList then readVersion c
    else if name = "TAG".toList then readHandleMeaning c
    else none
  let c := c.skipWhile isBlank
  let c := if c.rest.head? = some '#' then c.skipWhile fun ch => !isBreak ch else c
  if !atBreak c.rest then none
  return (directive, c.takeBreak.2)

end RenderChain.Yaml
