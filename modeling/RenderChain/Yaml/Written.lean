/-
  RenderChain/Yaml/Written.lean
  =============================
  **A YAML document as it is written**, with references in place of the nodes
  that they stand for.

  A place where the grammar allows a value and there is none holds an empty
  plain scalar.  A text has at most one document, and one without any is an
  empty plain scalar.

  An anchor gets the number of the different names before it.  A name that is
  used again therefore moves on to a new number, which the next new name shares,
  and a reference stands for the last node of its number, even for one after it.
-/
import RenderChain.Keyed
import RenderChain.Yaml.Token

namespace RenderChain.Yaml

/-- A node as it is written. -/
inductive Written
  | scalar (text : String) (style : ScalarStyle) (tag : Option String)
  | list (tag : Option String) (items : List Written)
  | map (tag : Option String) (entries : List (Written × Written))
  | reference (number : Nat)
  deriving Inhabited

def Written.empty : Written := .scalar "" .plain none

/-- A node with an anchor; `serial` counts the anchors before it in the text. -/
structure Anchored where
  number : Nat
  serial : Nat
  node : Written

namespace Written

/-- The tokens that are left, the meaning of handles, the numbers of the names of
    anchors, how many anchors there were, and the nodes that have one. -/
structure Reading where
  tokens : List Token
  handles : List (String × String)
  names : Keyed Nat
  count : Nat
  anchored : List Anchored

abbrev Reader := StateT Reading Option

def peek : Reader (Option Token) := do return (← get).tokens.head?

def take : Reader Unit := modify fun r => { r with tokens := r.tokens.tail }

/-- Takes the next token if it is this one. -/
def skip (t : Token) : Reader Bool := do
  if (← peek) = some t then
    take
    return true
  return false

/-- Whether one of the tokens comes next. -/
def comes (ts : List Token) : Reader Bool := do
  match ← peek with
  | some t => return ts.contains t
  | none => return false

/-- The number and the serial of an anchor. -/
def register (name : String) : Reader (Nat × Nat) := do
  let r ← get
  set { r with names := Keyed.put name r.names.length r.names, count := r.count + 1 }
  return (r.names.length, r.count)

def tagName (t : Tag) : Reader String := do
  let some name := t.name? (← get).handles | failure
  return name

/-- An anchor and a tag before a node, in either order. -/
def properties : (fuel : Nat) → (anchor tag : Option String) →
    Reader (Option String × Option String)
  | 0, _, _ => failure
  | fuel + 1, anchor, tag => do
    match ← peek with
    | some (.anchor name) =>
      if anchor.isSome then failure
      take
      properties fuel (some name) tag
    | some (.tag t) =>
      if tag.isSome then failure
      take
      properties fuel anchor (some (← tagName t))
    | _ => return (anchor, tag)

mutual

/-- A node; in block style if `block`, and if `listInMap` also a list that is
    indented no further than the map it stands in. -/
def node (block listInMap : Bool) : (fuel : Nat) → Reader Written
  | 0 => failure
  | fuel + 1 => do
    match ← peek with
    | some (.reference name) =>
      take
      let some number := (← get).names.find? name | failure
      return .reference number
    | _ =>
      let (anchor, tag) ← properties 3 none none
      match anchor with
      | none => content block listInMap fuel tag tag.isSome
      | some name =>
        let (number, serial) ← register name
        let n ← content block listInMap fuel tag true
        modify fun r => { r with anchored := ⟨number, serial, n⟩ :: r.anchored }
        return n

/-- A node after its properties. -/
def content (block listInMap : Bool) : (fuel : Nat) → (tag : Option String) →
    (mayBeEmpty : Bool) → Reader Written
  | 0, _, _ => failure
  | fuel + 1, tag, mayBeEmpty => do
    match ← peek with
    | some (.scalar text style) =>
      take
      return .scalar text style tag
    | some .openList =>
      take
      return .list tag (← flowItems true fuel)
    | some .openMap =>
      take
      return .map tag (← flowEntries true fuel)
    | some .entry =>
      if listInMap then return .list tag (← looseItems fuel)
      else if mayBeEmpty then return .scalar "" .plain tag
      else failure
    | some .blockList =>
      if block then
        take
        return .list tag (← blockItems fuel)
      else failure
    | some .blockMap =>
      if block then
        take
        return .map tag (← blockEntries fuel)
      else failure
    | _ => if mayBeEmpty then return .scalar "" .plain tag else failure

/-- A node unless one of the tokens comes next, which leave an empty one. -/
def nodeUnless (ends : List Token) (block listInMap : Bool) : (fuel : Nat) → Reader Written
  | 0 => failure
  | fuel + 1 => do
    if ← comes ends then return .empty else node block listInMap fuel

/-- The items of a list in block style. -/
def blockItems : (fuel : Nat) → Reader (List Written)
  | 0 => failure
  | fuel + 1 => do
    if ← skip .entry then
      let first ← nodeUnless [.entry, .blockEnd] true false fuel
      return first :: (← blockItems fuel)
    else if ← skip .blockEnd then return []
    else failure

/-- The items of a list that is indented no further than the map around it. -/
def looseItems : (fuel : Nat) → Reader (List Written)
  | 0 => failure
  | fuel + 1 => do
    if ← skip .entry then
      let first ← nodeUnless [.entry, .key, .value, .blockEnd] true false fuel
      return first :: (← looseItems fuel)
    else return []

/-- The entries of a map in block style. -/
def blockEntries : (fuel : Nat) → Reader (List (Written × Written))
  | 0 => failure
  | fuel + 1 => do
    if ← skip .key then
      let key ← nodeUnless [.key, .value, .blockEnd] true true fuel
      let value ← if ← skip .value then nodeUnless [.key, .value, .blockEnd] true true fuel
        else pure .empty
      return (key, value) :: (← blockEntries fuel)
    else if ← skip .blockEnd then return []
    else failure

/-- The key of a map of one entry in brackets.  An empty key takes the token
    along that ends it. -/
def flowKey : (fuel : Nat) → Reader Written
  | 0 => failure
  | fuel + 1 => do
    if ← comes [.value, .comma, .closeList] then
      take
      return .empty
    else node false false fuel

/-- The items of a list in brackets; an item may be a map of one entry. -/
def flowItems (first : Bool) : (fuel : Nat) → Reader (List Written)
  | 0 => failure
  | fuel + 1 => do
    if ← skip .closeList then return []
    if !first then
      if !(← skip .comma) then failure
      if ← skip .closeList then return []
    let item ← if ← skip .key then do
        let key ← flowKey fuel
        let value ← if ← skip .value then nodeUnless [.comma, .closeList] false false fuel
          else pure .empty
        pure (.map none [(key, value)])
      else node false false fuel
    return item :: (← flowItems false fuel)

/-- The entries of a map in braces; an entry may be a key alone. -/
def flowEntries (first : Bool) : (fuel : Nat) → Reader (List (Written × Written))
  | 0 => failure
  | fuel + 1 => do
    if ← skip .closeMap then return []
    if !first then
      if !(← skip .comma) then failure
      if ← skip .closeMap then return []
    let entry ← if ← skip .key then do
        let key ← nodeUnless [.value, .comma, .closeMap] false false fuel
        let value ← if ← skip .value then nodeUnless [.comma, .closeMap] false false fuel
          else pure .empty
        pure (key, value)
      else do pure (← node false false fuel, .empty)
    return entry :: (← flowEntries false fuel)

end

/-- Past tokens that are equal to this one. -/
def skipAll (t : Token) : (fuel : Nat) → Reader Unit
  | 0 => pure ()
  | fuel + 1 => do if ← skip t then skipAll t fuel

/-- The directives at the start of the text, the last one first. -/
def directives : (fuel : Nat) → (before : List Directive) → Reader (List Directive)
  | 0, _ => failure
  | fuel + 1, before => do
    match ← peek with
    | some (.directive d) =>
      if !d.isKnown || before.any d.clashes then failure
      take
      directives fuel (d :: before)
    | _ => return before

/-- What handles stand for after directives. -/
def handlesOf (ds : List Directive) : List (String × String) :=
  ds.filterMap (fun d => match d with
    | .handle name meaning => some (name, meaning)
    | .version .. => none) ++ standardHandles

/-- Whether the next token starts or ends a document, or there is none. -/
def atDocumentEnd : Reader Bool := do
  match ← peek with
  | none | some .documentStart | some .documentEnd | some (.directive _) => return true
  | _ => return false

/-- The only document of a text. -/
def document (fuel : Nat) : Reader Written := do
  if (← peek).isNone then return .empty
  let ds ← directives fuel []
  modify fun r => { r with handles := handlesOf ds }
  let marked ← skip .documentStart
  if !ds.isEmpty && !marked then failure
  let n ← if marked && (← atDocumentEnd) then pure .empty else node true false fuel
  skipAll .documentEnd fuel
  if (← peek).isSome then failure
  return n

end Written

/-- A document with the nodes that have anchors. -/
structure Document where
  root : Written
  anchored : List Anchored

/-- The document that a text is, unless the text is malformed. -/
def Document.read (source : String) : Option Document := do
  let tokens ← Token.scan source
  let fuel := 4 * tokens.length + 8
  let (root, r) ← (Written.document fuel).run ⟨tokens, [], [], 0, []⟩
  return ⟨root, r.anchored⟩

end RenderChain.Yaml
