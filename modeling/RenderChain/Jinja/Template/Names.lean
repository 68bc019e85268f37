/-
  RenderChain/Jinja/Template/Names.lean
  =====================================
  **The names that a procedure takes from around it.**

  A procedure keeps the values of the names that it uses and does not assign.
  `Statement.outerNames` walks through its body and carries the names that are
  known so far; a loop, a branch, a block of text and a procedure know more inside
  than after them.  An assignment counts as known in its own right-hand side, and
  `loop` in all of a loop statement.  Not looked for are the names that say which
  template is included and those of a value of which a slice is taken.
-/
import RenderChain.Jinja.Template

namespace RenderChain.Jinja

/-! ## Expressions -/

mutual

/-- The names that occur in an expression. -/
def Expr.names : Expr → List String
  | .variable name _ => [name]
  | .literal .. => []
  | .list items _ => Expr.namesOfItems items
  | .map entries _ => Expr.namesOfEntries entries
  | .negate e _ | .not_ e _ | .attribute e _ _ => e.names
  | .binary _ l r _ | .chain _ l r _ | .and_ l r _ | .or_ l r _ | .item l r _ =>
    l.names ++ r.names
  | .slice _ start stop step _ =>
    Expr.namesOfOption start ++ Expr.namesOfOption stop ++ Expr.namesOfOption step
  | .choose condition yes no _ => condition.names ++ yes.names ++ Expr.namesOfOption no
  | .call callee arguments _ => callee.names ++ Expr.namesOfArguments arguments
  | .filter _ input arguments _ => Expr.namesOfOption input ++ Expr.namesOfArguments arguments
  | .test _ input arguments _ => input.names ++ Expr.namesOfArguments arguments

def Expr.namesOfOption : Option Expr → List String
  | none => []
  | some e => e.names

def Expr.namesOfItems : List Expr → List String
  | [] => []
  | e :: rest => e.names ++ Expr.namesOfItems rest

def Expr.namesOfEntries : List (Expr × Expr) → List String
  | [] => []
  | (k, v) :: rest => k.names ++ v.names ++ Expr.namesOfEntries rest

def Expr.namesOfArguments : List (Passing × Expr) → List String
  | [] => []
  | (_, e) :: rest => e.names ++ Expr.namesOfArguments rest

end

mutual

/-- The names that a target assigns. -/
def Target.names : Target → List String
  | .name n => [n]
  | .unpack targets _ => Target.namesOfAll targets
  | .attribute .. => []

def Target.namesOfAll : List Target → List String
  | [] => []
  | t :: rest => t.names ++ Target.namesOfAll rest

end

/-! ## Statements -/

/-- Names that were found, and the names that are known after that. -/
abbrev Found := List String × List String

/-- The names of an expression that are not known. -/
def Expr.outerNames (known : List String) (e : Expr) : List String :=
  e.names.filter (· ∉ known)

/-- The names in the assignments of a scope, and those known inside of it. -/
def scopeNames (known : List String) : List (Target × Expr) → Found
  | [] => ([], known)
  | (t, e) :: rest =>
    let known := t.names ++ known
    let (found, inside) := scopeNames known rest
    (e.outerNames known ++ found, inside)

/-- The names in the defaults of parameters that are not known. -/
def defaultNames (known : List String) (parameters : List (String × Option Expr)) :
    List String :=
  parameters.flatMap fun p => (p.2.map (·.outerNames known)).getD []

mutual

def Statement.outerNames (known : List String) : Statement → Found
  | .data .. | .block .. | .inherit .. | .insert .. => ([], known)
  | .emit e _ => (e.outerNames known, known)
  | .forLoop target items condition _ body otherwise _ =>
    let inside := target.names ++ "loop" :: known
    let condition := match condition with
      | none => []
      | some (e, _) => e.outerNames inside
    (items.outerNames ("loop" :: known) ++ condition ++ (Statement.outerNamesOf inside body).1 ++
      (Statement.outerNamesOf known otherwise).1, known)
  | .branch condition yes no _ =>
    (condition.outerNames known ++ (Statement.outerNamesOf known yes).1 ++
      (Statement.outerNamesOf known no).1, known)
  | .scope assignments body _ =>
    let (found, inside) := scopeNames known assignments
    (found ++ (Statement.outerNamesOf inside body).1, known)
  | .assign target e _ =>
    let known := target.names ++ known
    (e.outerNames known, known)
  | .capture target _ body _ =>
    let known := target.names ++ known
    ((Statement.outerNamesOf known body).1, known)
  | .escaping _ body _ | .filtered _ body _ => ((Statement.outerNamesOf known body).1, known)
  | .importAll _ target _ => ([], target.names ++ known)
  | .importNames _ names _ => ([], names.map Prod.snd ++ known)
  | .define name parameters body _ =>
    let known := name :: known
    let inside := "caller" :: parameters.map Prod.fst ++ known
    (defaultNames inside parameters ++ (Statement.outerNamesOf inside body).1, known)
  | .perform call => (call.outerNames known, known)
  | .callWith callee arguments parameters body _ _ =>
    let called := (callee.names ++ Expr.namesOfArguments arguments).filter (· ∉ known)
    let inside := "caller" :: parameters.map Prod.fst ++ known
    (called ++ defaultNames inside parameters ++ (Statement.outerNamesOf inside body).1, known)

def Statement.outerNamesOf (known : List String) : List Statement → Found
  | [] => ([], known)
  | s :: rest =>
    let (found, known) := s.outerNames known
    let (more, known) := Statement.outerNamesOf known rest
    (found ++ more, known)

end

/-- The names that a procedure uses and does not assign. -/
def procedureNames (parameters : List (String × Option Expr)) (body : List Statement) :
    List String :=
  let known := parameters.map Prod.fst
  defaultNames known parameters ++ (Statement.outerNamesOf known body).1

end RenderChain.Jinja
