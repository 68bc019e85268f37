/-
  RenderChain/Jinja/Template.lean
  ===============================
  **Templates as trees** of expressions and statements.

  Every node that can fail has a line.  As the tree is read, that is the line
  where the node starts; `Template.Line` then puts in its place the line at
  which a fault of the node is reported, and that is where evaluation finds it.
-/
import RenderChain.Jinja.Operator

namespace RenderChain.Jinja

/-- How a call passes an argument. -/
inductive Passing
  | inOrder
  /-- Each item of the value is an argument. -/
  | items
  | named (name : String)
  /-- Each value of a map is an argument, named by its key. -/
  | entries
  deriving DecidableEq, Repr

/-- Whether the argument has its place by its position and not by a name. -/
def Passing.isPositional : Passing → Bool
  | .inOrder | .items => true
  | .named _ | .entries => false

inductive Expr
  | variable (name : String) (line : Nat)
  | literal (value : Value) (line : Nat)
  | list (items : List Expr) (line : Nat)
  | map (entries : List (Expr × Expr)) (line : Nat)
  | negate (operand : Expr) (line : Nat)
  | not_ (operand : Expr) (line : Nat)
  | binary (op : Operator) (left right : Expr) (line : Nat)
  /-- Compares the last operand of a comparison that holds with one more operand. -/
  | chain (op : Operator) (comparison right : Expr) (line : Nat)
  | and_ (left right : Expr) (line : Nat)
  | or_ (left right : Expr) (line : Nat)
  /-- `yes if condition else no`. -/
  | choose (condition yes : Expr) (no : Option Expr) (line : Nat)
  | attribute (parent : Expr) (name : String) (line : Nat)
  | item (parent key : Expr) (line : Nat)
  /-- The items from `start` up to `stop`, every `step`-th of them. -/
  | slice (parent : Expr) (start stop step : Option Expr) (line : Nat)
  /-- A call with its arguments, those with a name after the others. -/
  | call (callee : Expr) (arguments : List (Passing × Expr)) (line : Nat)
  /-- A filter; without an input it is applied to what a block has printed. -/
  | filter (name : String) (input : Option Expr) (arguments : List (Passing × Expr))
      (line : Nat)
  | test (name : String) (input : Expr) (arguments : List (Passing × Expr)) (line : Nat)

/-- What a value is assigned to: a name, one target for each of its items, or a
    part of a value. -/
inductive Target
  | name (name : String)
  | unpack (targets : List Target) (line : Nat)
  | attribute (parent : Expr) (name : String) (line : Nat)

inductive Statement
  | data (text : String) (line : Nat)
  | emit (value : Expr) (line : Nat)
  /-- A loop; a recursive one can be called with further items. -/
  | forLoop (target : Target) (items : Expr) (condition : Option (Expr × Nat)) (recursive : Bool)
      (body otherwise : List Statement) (line : Nat)
  | branch (condition : Expr) (yes no : List Statement) (line : Nat)
  | scope (assignments : List (Target × Expr)) (body : List Statement) (line : Nat)
  | assign (target : Target) (value : Expr) (line : Nat)
  /-- Assigns what the body prints. -/
  | capture (target : Target) (filter : Option Expr) (body : List Statement) (line : Nat)
  | escaping (mode : Expr) (body : List Statement) (line : Nat)
  /-- Prints what a filter makes of what the body prints. -/
  | filtered (filter : Expr) (body : List Statement) (line : Nat)
  /-- Prints the block of that name; a required one must be replaced by some template. -/
  | block (name : String) (required : Bool) (line : Nat)
  | inherit (parent : Expr) (line : Nat)
  | insert (template : Expr) (mayBeMissing : Bool) (line : Nat)
  | importAll (template : Expr) (target : Target) (line : Nat)
  | importNames (template : Expr) (names : List (String × String)) (line : Nat)
  | define (name : String) (parameters : List (String × Option Expr)) (body : List Statement)
      (line : Nat)
  /-- Evaluates a call and prints nothing. -/
  | perform (call : Expr)
  /-- Prints the value of a call that gets one more argument named `caller`: a
      procedure with these parameters and this body. -/
  | callWith (callee : Expr) (arguments : List (Passing × Expr))
      (parameters : List (String × Option Expr)) (body : List Statement)
      (line bodyLine : Nat)

/-- A template, with its blocks by name wherever they stand in it. -/
structure Template where
  name : String
  body : List Statement
  blocks : List (String × List Statement)

end RenderChain.Jinja
