/-
  RenderChain/Yaml/Node.lean
  ==========================
  **A YAML document as a tree** of scalars, lists and maps.

  Every reference is replaced by the node that it stands for.  That has bounds,
  so that a document that refers to itself is no tree: lists and maps are nested
  128 deep at most, and references are followed a hundred times at most for each
  of the parts that the document is written with.

  A tree is sound if every scalar means something and no map has a key twice.
-/
import RenderChain.Yaml.Meaning
import RenderChain.Yaml.Written

namespace RenderChain.Yaml

/-- A key and a value.  In messages the pair has the text of its key, unless
    that is a reference or no scalar. -/
structure Pair (α : Type) where
  label : String
  key : α
  value : α
  deriving Inhabited

inductive Node
  | scalar (text : String) (style : ScalarStyle) (tag : Option String)
  | list (tag : Option String) (items : List Node)
  | map (tag : Option String) (entries : List (Pair Node))
  deriving Inhabited

/-! ## References -/

mutual

/-- The number of parts that a node is written with. -/
def Written.parts : Written → Nat
  | .scalar .. | .reference _ => 1
  | .list _ items => Written.partsOfItems items + 2
  | .map _ entries => Written.partsOfEntries entries + 2

def Written.partsOfItems : List Written → Nat
  | [] => 0
  | item :: rest => item.parts + Written.partsOfItems rest

def Written.partsOfEntries : List (Written × Written) → Nat
  | [] => 0
  | (key, value) :: rest => key.parts + value.parts + Written.partsOfEntries rest

end

def Written.label : Written → String
  | .scalar text _ _ => text
  | _ => "?"

namespace Document

/-- The last node of the text with a number. -/
def lookup (d : Document) (number : Nat) : Option Written :=
  let latest (best : Option Anchored) (a : Anchored) : Option Anchored :=
    if a.number = number ∧ best.all (fun b => b.serial < a.serial) then some a else best
  (d.anchored.foldl latest none).map (·.node)

/-- Computations with the number of references that may still be followed. -/
abbrev Expansion := StateT Nat Option

/-- The node itself, or the one that it refers to. -/
def follow (d : Document) : Written → Expansion Written
  | .reference number => do
    let left ← get
    if left = 0 then failure
    set (left - 1)
    let some n := d.lookup number | failure
    return n
  | n => return n

/-- A node without references, with lists and maps nested `depth` deep at most. -/
def expand (d : Document) : (depth : Nat) → Written → Expansion Node
  | depth, n => do
    match ← d.follow n, depth with
    | .scalar text style tag, _ => return .scalar text style tag
    | .list tag items, depth + 1 => return .list tag (← items.mapM (d.expand depth))
    | .map tag entries, depth + 1 =>
      return .map tag (← entries.mapM fun (key, value) =>
        return ⟨key.label, ← d.expand depth key, ← d.expand depth value⟩)
    | _, _ => failure

/-- The depth that lists and maps may be nested. -/
def maxDepth : Nat := 128

/-- The tree of a document. -/
def tree (d : Document) : Option Node :=
  ((d.expand maxDepth d.root).run (100 * d.root.parts)).map (·.1)

end Document

namespace Node

/-- The tree of the document that a text is, unless the text is malformed. -/
def parse (source : String) : Option Node := (Document.read source).bind Document.tree

/-! ## Meaning -/

/-- The meaning of a scalar. -/
def meaning? : Node → Option Meaning
  | .scalar text style tag => Meaning.of? text style tag
  | _ => none

/-- Whether the node is an empty plain scalar. -/
def isEmpty : Node → Bool
  | .scalar "" .plain _ => true
  | _ => false

mutual

/-- Whether two nodes mean the same; the order of a map does not count. -/
def same : Node → Node → Bool
  | .scalar text style tag, .scalar text' style' tag' =>
    localTag? tag = localTag? tag' &&
      match Meaning.of? text style tag, Meaning.of? text' style' tag' with
      | some m, some m' => m.same m'
      | _, _ => false
  | .list tag items, .list tag' items' => localTag? tag = localTag? tag' && sameItems items items'
  | .map tag entries, .map tag' entries' =>
    localTag? tag = localTag? tag' && entries.length = entries'.length &&
      hasEntries entries entries'
  | _, _ => false

def sameItems : List Node → List Node → Bool
  | [], [] => true
  | item :: rest, item' :: rest' => same item item' && sameItems rest rest'
  | _, _ => false

/-- Whether every entry of the first list is one of the second. -/
def hasEntries : List (Pair Node) → List (Pair Node) → Bool
  | [], _ => true
  | ⟨_, key, value⟩ :: rest, entries =>
    entries.any (fun e => same key e.key && same value e.value) && hasEntries rest entries

end

/-- Whether a key stands twice in a map. -/
def repeatsKey : List (Pair Node) → Bool
  | [] => false
  | e :: rest => rest.any (fun e' => e.key.same e'.key) || repeatsKey rest

mutual

/-- Whether every scalar means something and no map has a key twice. -/
def isSound : Node → Bool
  | .scalar text style tag => (Meaning.of? text style tag).isSome
  | .list _ items => areSound items
  | .map _ entries => !repeatsKey entries && haveSoundParts entries

def areSound : List Node → Bool
  | [] => true
  | item :: rest => isSound item && areSound rest

def haveSoundParts : List (Pair Node) → Bool
  | [] => true
  | ⟨_, key, value⟩ :: rest => isSound key && isSound value && haveSoundParts rest

end

end Node

end RenderChain.Yaml
