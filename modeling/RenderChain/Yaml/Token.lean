/-
  RenderChain/Yaml/Token.lean
  ===========================
  **Tokens of a YAML document.**

  Indentation, `:` and `-` give the structure of block style; the tokens make it
  explicit, with a token where a block starts and one where it ends.  Only a `:`
  tells that what stands before it was a key, so the scanner remembers where a
  key may have started, one place for each level of brackets, and puts the key
  token there afterwards.  A key must be on one line and within 1024 bytes.

  Any violation of the grammar makes the whole text malformed, so scanning gives
  tokens or nothing.
-/
import RenderChain.Yaml.Scalar
import RenderChain.Yaml.Tag

namespace RenderChain.Yaml

inductive Token
  | directive (d : Directive)
  | documentStart
  | documentEnd
  | blockList
  | blockMap
  | blockEnd
  | openList
  | closeList
  | openMap
  | closeMap
  | entry
  | comma
  | key
  | value
  | anchor (name : String)
  | reference (name : String)
  | tag (t : Tag)
  | scalar (text : String) (style : ScalarStyle)
  deriving DecidableEq, Repr

/-! ## The scanner -/

/-- Where a key may have started. -/
structure KeyStart where
  /-- The number of tokens before it. -/
  position : Nat
  /-- Whether nothing else than a key may stand there. -/
  required : Bool
  index : Nat
  line : Nat
  column : Nat

structure Scan where
  cursor : Cursor
  tokens : Array Token
  indent : Int
  outer : List Int
  /-- Possible keys, by level of brackets, the innermost first. -/
  keys : List (Option KeyStart)
  keyAllowed : Bool

abbrev Scanner := StateT Scan Option

namespace Scanner

def inFlow (s : Scan) : Bool := 1 < s.keys.length

def push (t : Token) : Scanner Unit := modify fun s => { s with tokens := s.tokens.push t }

def move (c : Cursor) : Scanner Unit := modify fun s => { s with cursor := c }

def allowKey (allowed : Bool) : Scanner Unit := modify fun s => { s with keyAllowed := allowed }

def setKey (key : Option KeyStart) : Scanner Unit :=
  modify fun s => { s with keys := key :: s.keys.tail }

/-- Forgets the possible key of this level. -/
def dropKey : Scanner Unit := do
  match (← get).keys.head? with
  | some (some key) => if key.required then failure else setKey none
  | _ => pure ()

/-- Forgets possible keys that are too far away. -/
def dropStaleKeys : Scanner Unit := do
  let s ← get
  let stale (key : KeyStart) : Bool :=
    key.line < s.cursor.line || key.index + 1024 < s.cursor.index
  if s.keys.any fun key => key.any fun k => stale k && k.required then failure
  set { s with keys := s.keys.map (Option.filter fun k => !stale k) }

/-- Remembers that a key may start here. -/
def saveKey : Scanner Unit := do
  let s ← get
  if s.keyAllowed then
    dropKey
    setKey (some ⟨s.tokens.size, !inFlow s && s.indent = s.cursor.column, s.cursor.index,
      s.cursor.line, s.cursor.column⟩)

/-- Starts a block at a column if it is indented further; its token is put at a position. -/
def indentTo (column position : Nat) (start : Token) : Scanner Unit := do
  let s ← get
  if !inFlow s && s.indent < column then
    set { s with
      outer := s.indent :: s.outer
      indent := column
      tokens := (s.tokens.toList.take position ++ start :: s.tokens.toList.drop position).toArray }

/-- Ends the blocks that are indented further than a column. -/
def unindentTo (column : Int) : Scanner Unit := do
  let s ← get
  if !inFlow s then
    let levels := s.indent :: s.outer
    let ended := (levels.takeWhile (column < ·)).length
    match levels.drop ended with
    | [] => failure
    | indent :: outer =>
      set { s with
        indent := indent
        outer := outer
        tokens := s.tokens ++ Array.replicate ended Token.blockEnd }

/-- Past a byte order mark at the start of a line, which takes a column. -/
def skipOrderMark (c : Cursor) : Cursor :=
  if c.column = 0 && c.rest.head? = some '\ufeff' then c.skipN 1 else c

/-- Past white space and comments. -/
def skipToToken : (fuel : Nat) → Scanner Unit
  | 0 => pure ()
  | fuel + 1 => do
    let s ← get
    let c := (skipOrderMark s.cursor).skipWhile fun ch =>
      ch = ' ' || (ch = '\t' && (inFlow s || !s.keyAllowed))
    let c := if c.rest.head? = some '#' then c.skipWhile fun ch => !isBreak ch else c
    match c.rest with
    | ch :: _ =>
      if isBreak ch then
        move c.takeBreak.2
        if !inFlow s then allowKey true
        skipToToken fuel
      else move c
    | [] => move c

/-- A token of some characters that needs no more than that. -/
def mark (t : Token) (length : Nat) : Scanner Unit := do
  push t
  move ((← get).cursor.skipN length)

def openBracket (t : Token) : Scanner Unit := do
  saveKey
  modify fun s => { s with keys := none :: s.keys }
  allowKey true
  mark t 1

def closeBracket (t : Token) : Scanner Unit := do
  dropKey
  modify fun s => if inFlow s then { s with keys := s.keys.tail } else s
  allowKey false
  mark t 1

/-- A `-` or `?` that starts an entry of a block. -/
def startEntry (block t : Token) (allowedInFlow : Bool) : Scanner Unit := do
  let s ← get
  if !inFlow s then
    if !s.keyAllowed then failure
    indentTo s.cursor.column s.tokens.size block
  dropKey
  allowKey (allowedInFlow || !inFlow s)
  mark t 1

/-- A `:`, which makes a key of what was remembered. -/
def startValue : Scanner Unit := do
  let s ← get
  match s.keys.head? with
  | some (some key) =>
    modify fun s => { s with
      tokens := (s.tokens.toList.take key.position ++
        Token.key :: s.tokens.toList.drop key.position).toArray }
    indentTo key.column key.position .blockMap
    setKey none
    allowKey false
  | _ =>
    if !inFlow s then
      if !s.keyAllowed then failure
      indentTo s.cursor.column s.tokens.size .blockMap
    allowKey (!inFlow s)
  mark .value 1

/-- An anchor or a reference to one. -/
def scanName (make : String → Token) : Scanner Unit := do
  saveKey
  allowKey false
  let c := (← get).cursor.skip
  let name := c.rest.takeWhile isNameChar
  let after := c.rest.drop name.length
  let ended := atBlank after || after.head?.any fun ch =>
    ch ∈ ['?', ':', ',', ']', '}', '%', '@', '\x60']
  if name.isEmpty || !ended then failure
  push (make (String.ofList name))
  move (c.skipN name.length)

def scanTag : Scanner Unit := do
  saveKey
  allowKey false
  let s ← get
  let (tag, next) ← readTag s.cursor
  if !(atBlank next.rest || (inFlow s && next.rest.head? = some ',')) then failure
  push (.tag tag)
  move next

def scanQuoted (single : Bool) : Scanner Unit := do
  saveKey
  allowKey false
  let c := (← get).cursor.skip
  let (text, next) ← readQuoted single (c.rest.length + 1) c
  push (.scalar (String.ofList text) .quoted)
  move next

def scanBlock (literal : Bool) : Scanner Unit := do
  dropKey
  allowKey true
  let s ← get
  let (text, next) ← readBlock literal s.indent s.cursor.skip
  push (.scalar (String.ofList text) .quoted)
  move next

def scanPlain : Scanner Unit := do
  saveKey
  allowKey false
  let s ← get
  let (text, broken, next) ←
    readPlain (inFlow s) (s.indent + 1).toNat (s.cursor.rest.length + 1) s.cursor
  push (.scalar (String.ofList text) .plain)
  move next
  if broken then allowKey true

/-- Whether a plain scalar may start with these characters. -/
def startsPlain (flow : Bool) : List Char → Bool
  | [] => false
  | c :: rest =>
    if c = '-' then !(rest.head?.any isBlank)
    else if c = '?' ∨ c = ':' then !flow && !atBlank rest
    else
      !isBlank c && !isFlowMark c &&
        c ∉ ['#', '&', '*', '!', '|', '>', '\'', '"', '%', '@', '\x60']

def scanDirective : Scanner Unit := do
  unindentTo (-1)
  dropKey
  allowKey false
  let (directive, next) ← readDirective (← get).cursor
  push (.directive directive)
  move next

def documentMark (t : Token) : Scanner Unit := do
  unindentTo (-1)
  dropKey
  allowKey false
  mark t 3

/-- The next token or tokens; false at the end of the text. -/
def next : Scanner Bool := do
  skipToToken ((← get).cursor.rest.length + 1)
  dropStaleKeys
  unindentTo (← get).cursor.column
  let s ← get
  let c := s.cursor
  match c.rest with
  | [] =>
    unindentTo (-1)
    dropKey
    return false
  | ch :: rest =>
    if c.column = 0 ∧ ch = '%' then scanDirective
    else if c.atMarker then documentMark (if ch = '-' then .documentStart else .documentEnd)
    else if ch = '[' then openBracket .openList
    else if ch = '{' then openBracket .openMap
    else if ch = ']' then closeBracket .closeList
    else if ch = '}' then closeBracket .closeMap
    else if ch = ',' then
      dropKey
      allowKey true
      mark .comma 1
    else if ch = '-' ∧ atBlank rest then startEntry .blockList .entry true
    else if ch = '?' ∧ (inFlow s ∨ atBlank rest) then startEntry .blockMap .key false
    else if ch = ':' ∧ (inFlow s ∨ atBlank rest) then startValue
    else if ch = '*' then scanName .reference
    else if ch = '&' then scanName .anchor
    else if ch = '!' then scanTag
    else if ch = '|' ∧ !inFlow s then scanBlock true
    else if ch = '>' ∧ !inFlow s then scanBlock false
    else if ch = '\'' then scanQuoted true
    else if ch = '"' then scanQuoted false
    else if startsPlain (inFlow s) c.rest then scanPlain
    else failure
    return true

/-- All tokens; every step takes at least one character. -/
def all : (fuel : Nat) → Scanner Unit
  | 0 => failure
  | fuel + 1 => do if ← next then all fuel

end Scanner

/-- The tokens of a text, unless it is malformed. -/
def Token.scan (source : String) : Option (List Token) := do
  let c : Cursor := ⟨source.toList, 0, 0, 0⟩
  if !c.rest.all isAllowed then none
  let s : Scan := ⟨c, #[], -1, [], [none], true⟩
  let (_, s) ← (Scanner.all (c.rest.length + 2)).run s
  return s.tokens.toList

end RenderChain.Yaml
