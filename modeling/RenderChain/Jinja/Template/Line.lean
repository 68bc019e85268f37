/-
  RenderChain/Jinja/Template/Line.lean
  ====================================
  **The lines at which faults are reported.**

  A tree is walked in the order in which it is evaluated, and the line is kept
  that the walk has come to.  A text, a name or a constant expression moves the
  walk to its own line, and a constant expression becomes a literal; named
  arguments that are all literals do not move it.  A node that fails is reported
  at the line that the walk has reached when its operands are done, with a few
  exceptions: a negation, a `super` call and statements about other templates are
  reported where they start.  The call of a block has no arguments that are
  evaluated, so the walk passes them over.
-/
import RenderChain.Jinja.Template.Constant

namespace RenderChain.Jinja

/-- A walk through a tree that stands at some line. -/
abbrev Walk := StateM Nat

/-- Whether all arguments with a name are literals. -/
def hasFixedNames (arguments : List (Passing × Expr)) : Bool :=
  arguments.all fun a => a.1.isPositional || (a.1 ≠ .entries && a.2.literal?.isSome)

namespace Template

mutual

def settle (e : Expr) : Walk Expr := do
  match e.constant? with
  | some v =>
    set e.line
    return .literal v e.line
  | none =>
    match e with
    | .variable name line => do
      set line
      return .variable name line
    | .literal v line => return .literal v line
    | .list items line => do
      set line
      return .list (← settleItems items) (← get)
    | .map entries line => do
      set line
      return .map (← settleEntries entries) (← get)
    | .negate e line => do
      set line
      return .negate (← settle e) line
    | .not_ e line => do
      set line
      return .not_ (← settle e) (← get)
    | .binary op l r line => do
      set line
      let l ← settle l
      let r ← settle r
      return .binary op l r (← get)
    | .chain op (.binary first a b line) r _ => do
      set line
      let a ← settle a
      let b ← settle b
      let comparison := .binary first a b (← get)
      let r ← settle r
      return .chain op comparison r (← get)
    | .chain op l r _ => do
      let l ← settle l
      let r ← settle r
      return .chain op l r (← get)
    | .and_ l r line => do
      set line
      let l ← settle l
      let line ← get
      return .and_ l (← settle r) line
    | .or_ l r line => do
      set line
      let l ← settle l
      let line ← get
      return .or_ l (← settle r) line
    | .choose condition yes no line => do
      set line
      let condition ← settle condition
      let line ← get
      let yes ← settle yes
      return .choose condition yes (← settleOption no) line
    | .attribute e name line => do
      set line
      return .attribute (← settle e) name (← get)
    | .item e key line => do
      set line
      let e ← settle e
      let key ← settle key
      return .item e key (← get)
    | .slice e start stop step line => do
      set line
      let e ← settle e
      let start ← settleOption start
      let stop ← settleOption stop
      return .slice e start stop (← settleOption step) (← get)
    | .call (.attribute (.variable "self" inner) name at_) arguments line => do
      set line
      return .call (.attribute (.variable "self" inner) name at_) arguments line
    | .call callee arguments line => do
      set line
      let callee ← settleCallee callee
      return .call callee (← settleArguments (hasFixedNames arguments) arguments) (← get)
    | .filter name input arguments line => do
      set line
      let input ← settleOption input
      return .filter name input (← settleArguments (hasFixedNames arguments) arguments) (← get)
    | .test name input arguments line => do
      set line
      let input ← settle input
      return .test name input (← settleArguments (hasFixedNames arguments) arguments) (← get)

/-- The callee of a call: a name is looked up after the arguments, a method in
    what stands in front of it. -/
def settleCallee : Expr → Walk Expr
  | .variable name line => return .variable name line
  | .attribute e name line => return .attribute (← settle e) name line
  | e => settle e

def settleOption : Option Expr → Walk (Option Expr)
  | none => return none
  | some e => return some (← settle e)

def settleItems : List Expr → Walk (List Expr)
  | [] => return []
  | e :: rest => do
    let e ← settle e
    return e :: (← settleItems rest)

def settleEntries : List (Expr × Expr) → Walk (List (Expr × Expr))
  | [] => return []
  | (k, v) :: rest => do
    let k ← settle k
    let v ← settle v
    return (k, v) :: (← settleEntries rest)

/-- Arguments; `fixed` says that those with a name are constants. -/
def settleArguments (fixed : Bool) : List (Passing × Expr) → Walk (List (Passing × Expr))
  | [] => return []
  | (passing, e) :: rest => do
    let e ← if fixed && !passing.isPositional then pure e else settle e
    return (passing, e) :: (← settleArguments fixed rest)

end

/-! ## Statements -/

mutual

def settleTarget : Target → Walk Target
  | .name name => return .name name
  | .unpack targets line => do
    set line
    return .unpack (← settleTargets targets) line
  | .attribute parent name line => do
    set line
    return .attribute (← settle parent) name (← get)

def settleTargets : List Target → Walk (List Target)
  | [] => return []
  | t :: rest => do
    let t ← settleTarget t
    return t :: (← settleTargets rest)

end

def settleAssignments : List (Target × Expr) → Walk (List (Target × Expr))
  | [] => return []
  | (t, e) :: rest => do
    let e ← settle e
    let t ← settleTarget t
    return (t, e) :: (← settleAssignments rest)

def settleParameters : List (String × Option Expr) → Walk (List (String × Option Expr))
  | [] => return []
  | (name, default) :: rest => do
    let rest ← settleParameters rest
    return (name, ← settleOption default) :: rest

mutual

def settleStatement : Statement → Walk Statement
  | .data text line => do
    set line
    return .data text line
  | .emit e line => do
    set line
    return .emit (← settle e) (← get)
  | .forLoop target items condition recursive body otherwise line => do
    set line
    let items ← settle items
    let line ← get
    let target ← settleTarget target
    let condition ← match condition with
      | none => pure none
      | some (e, _) => do
        let e ← settle e
        pure (some (e, ← get))
    let body ← settleBody body
    return .forLoop target items condition recursive body (← settleBody otherwise) line
  | .branch condition yes no line => do
    set line
    let condition ← settle condition
    let line ← get
    let yes ← settleBody yes
    return .branch condition yes (← settleBody no) line
  | .scope assignments body line => do
    set line
    let assignments ← settleAssignments assignments
    return .scope assignments (← settleBody body) line
  | .assign target e line => do
    set line
    let e ← settle e
    return .assign (← settleTarget target) e line
  | .capture target filter body line => do
    set line
    let body ← settleBody body
    let filter ← settleOption filter
    return .capture (← settleTarget target) filter body line
  | .escaping mode body line => do
    set line
    let mode ← settle mode
    let line ← get
    return .escaping mode (← settleBody body) line
  | .filtered filter body line => do
    set line
    let body ← settleBody body
    let filter ← settle filter
    return .filtered filter body (← get)
  | .block name required line => do
    set line
    return .block name required line
  | .inherit e line => do
    set line
    return .inherit (← settle e) line
  | .insert e mayBeMissing line => do
    set line
    return .insert (← settle e) mayBeMissing line
  | .importAll e target line => do
    let e ← settle e
    return .importAll e (← settleTarget target) line
  | .importNames e names line => return .importNames (← settle e) names line
  | .define name parameters body line => do
    set line
    let parameters ← settleParameters parameters
    return .define name parameters (← settleBody body) line
  | .perform call => return .perform (← settle call)
  | .callWith (.attribute (.variable "self" inner) name at_) arguments parameters body line
      bodyLine => do
    set line
    return .callWith (.attribute (.variable "self" inner) name at_) arguments parameters body line
      bodyLine
  | .callWith callee arguments parameters body line bodyLine => do
    set line
    let callee ← settleCallee callee
    let arguments ← settleArguments false arguments
    set bodyLine
    let parameters ← settleParameters parameters
    let body ← settleBody body
    return .callWith callee arguments parameters body (← get) bodyLine

def settleBody : List Statement → Walk (List Statement)
  | [] => return []
  | s :: rest => do
    let s ← settleStatement s
    return s :: (← settleBody rest)

end

/-- The template with the lines at which its faults are reported. -/
def settleLines (t : Template) : Template :=
  { t with
    body := ((settleBody t.body).run 1).1
    blocks := t.blocks.map fun b => (b.1, ((settleBody b.2).run 1).1) }

end Template

end RenderChain.Jinja
