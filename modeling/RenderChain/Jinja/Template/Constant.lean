/-
  RenderChain/Jinja/Template/Constant.lean
  ========================================
  **Constant expressions.**

  An expression made of constants, operators and comparisons alone has its value
  before the template runs, unless the operators fault.  One operator tells the difference:
  `and` gives `false` for constants of which one does not hold, and the first
  such operand for others.  Lists and maps are constant only if all their parts
  are literals.
-/
import RenderChain.Jinja.Template

namespace RenderChain.Jinja

/-- The line where an expression starts. -/
def Expr.line : Expr → Nat
  | .variable _ line | .literal _ line | .list _ line | .map _ line | .negate _ line
  | .not_ _ line | .binary _ _ _ line | .chain _ _ _ line | .and_ _ _ line | .or_ _ _ line
  | .choose _ _ _ line | .attribute _ _ line | .item _ _ line | .slice _ _ _ _ line
  | .call _ _ line | .filter _ _ _ line | .test _ _ _ line => line

def Expr.literal? : Expr → Option Value
  | .literal v _ => some v
  | _ => none

mutual

/-- The value of a constant expression. -/
def Expr.constant? : Expr → Option Value
  | .literal v _ => some v
  | .list items _ => (items.mapM Expr.literal?).map Value.sequence
  | .map entries _ => do
    let pairs ← entries.mapM fun e => do return (← e.1.literal?, ← e.2.literal?)
    return mapOf pairs .plain
  | .negate e _ => e.constant?.bind fun v => (Jinja.negate v).toOption
  | .not_ e _ => e.constant?.map fun v => .bool !v.isTrue
  | .binary op l r _ => do
    let a ← l.constant?
    let b ← r.constant?
    (op.applyPresent a b).toOption
  | .and_ l r _ => do
    let a ← l.constant?
    let b ← r.constant?
    return if a.isTrue && b.isTrue then b else .bool false
  | .or_ l r _ => do
    let a ← l.constant?
    let b ← r.constant?
    return if a.isTrue then a else b
  | .chain op comparison r _ => do
    let (holds, a) ← comparison.constantLink?
    let b ← r.constant?
    if holds then (op.applyPresent a b).toOption else return .bool false
  | _ => none

/-- Whether a comparison of constants holds, and its last operand. -/
def Expr.constantLink? : Expr → Option (Bool × Value)
  | .binary op l r _ => do
    let a ← l.constant?
    let b ← r.constant?
    return ((← (op.applyPresent a b).toOption).isTrue, b)
  | .chain op comparison r _ => do
    let (holds, a) ← comparison.constantLink?
    let b ← r.constant?
    if holds then return ((← (op.applyPresent a b).toOption).isTrue, b) else return (false, b)
  | _ => none

end

end RenderChain.Jinja
