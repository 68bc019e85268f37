/-
  RenderChain/Jinja/Operator.lean
  ===============================
  **Operators on values**: arithmetic, comparison, membership, access, and the
  values that a loop runs through.

  Numbers are combined as integers if both are integers or truth values, else as
  binary64 numbers.  Integers stay within 128 bits with a sign; a result outside
  is a fault and does not wrap, and an operand outside has no arithmetic, unless
  both are words of 128 bits without a sign, which are taken for signed ones.
  Values of different kinds are unequal and compare by their kinds, except that
  integers, truth values and binary64 numbers are equal if their numbers are.
  A list, map or loop equals itself, even if it holds a number that does not.
  A missing value can be neither compared nor joined to a text.
-/
import RenderChain.Decimal
import RenderChain.Jinja.Fault
import RenderChain.Jinja.Value
import RenderChain.Text.Split

namespace RenderChain.Jinja

/-- The binary operators without those that may leave out their second operand. -/
inductive Operator
  | add
  | sub
  | mul
  | div
  | intDiv
  | rem
  | pow
  | concat
  | eq
  | ne
  | lt
  | le
  | gt
  | ge
  | isIn
  | notIn
  deriving DecidableEq, Repr

def Operator.symbol : Operator → String
  | .add => "+"
  | .sub => "-"
  | .mul => "*"
  | .div => "/"
  | .intDiv => "//"
  | .rem => "%"
  | .pow => "**"
  | .concat => "~"
  | .eq => "=="
  | .ne => "!="
  | .lt => "<"
  | .le => "<="
  | .gt => ">"
  | .ge => ">="
  | .isIn => "in"
  | .notIn => "not in"

/-! ## Numbers -/

/-- The integers of 128 bits with a sign. -/
def isWord (n : Int) : Bool := -Int.pow 2 127 ≤ n && n < Int.pow 2 127

/-- Integers and truth values as integers of 128 bits with a sign. -/
def integer? : Value → Option Int
  | .int n _ => if isWord n then some n else none
  | .bool b => some (if b then 1 else 0)
  | _ => none

/-- An integer of 128 bits without a sign, taken for one with a sign. -/
def asSigned (n : Int) : Int := if n < Int.pow 2 127 then n else n - Int.pow 2 128

/-- Two integers of one type.  If both have 128 bits and no sign, their highest
    bits are taken for signs. -/
def integers? : Value → Value → Option (Int × Int)
  | .int m .unsigned128, .int n .unsigned128 => some (asSigned m, asSigned n)
  | a, b => do return (← integer? a, ← integer? b)

/-- The value as an integer; a binary64 number counts if it is whole and has 64 bits. -/
def whole? : Value → Option Int
  | .float x =>
    if x.floor == x && x.abs ≤ Float.ofNat (Nat.pow 2 63) then some x.toInt64.toInt else none
  | v => integer? v

/-- The value as an integer of 64 bits with a sign. -/
def index? (v : Value) : Option Int :=
  (whole? v).filter fun n => -Int.pow 2 63 ≤ n && n < Int.pow 2 63

/-- The value as an integer of 64 bits without a sign. -/
def count? (v : Value) : Option Nat :=
  (whole? v).bind fun n => if 0 ≤ n && n < Int.pow 2 64 then some n.toNat else none

def floatOfInt (n : Int) : Float :=
  if n < 0 then -(Float.ofNat n.natAbs) else Float.ofNat n.natAbs

/-- The value as a binary64 number. -/
def number? : Value → Option Float
  | .float x => some x
  | .int n _ => some (floatOfInt n)
  | v => (integer? v).map floatOfInt

/-- Two operands of arithmetic brought to one type. -/
inductive Operands
  | ints (a b : Int)
  | floats (a b : Float)

def operands? (a b : Value) : Option Operands :=
  match a, b with
  | .float x, b => (number? b).map (.floats x ·)
  | a, .float y => (number? a).map (.floats · y)
  | a, b => (integers? a b).map fun p => .ints p.1 p.2

/-! ## Equality and order -/

/-- A rank that orders binary64 numbers; both zeros have rank zero. -/
def floatRank (x : Float) : Int :=
  let bits := x.toBits.toNat
  if bits < Nat.pow 2 63 then bits else Int.pow 2 63 - (bits : Int)

/-- An integer against a binary64 number. -/
def orderWithFloat (n : Int) (x : Float) : Ordering :=
  match Decimal.decode x with
  | (_, .zero) => compare n 0
  | (negative, .infinite) => if negative then .gt else .lt
  | (_, .notANumber) => .lt
  | (negative, .finite m e _) =>
    let m : Int := if negative then -(m : Int) else m
    if 0 ≤ e then compare n (m * Int.pow 2 e.toNat) else compare (n * Int.pow 2 (-e).toNat) m

/-- The binary64 number that an integer is, if it is one.  The greatest number of
    a word counts as the power of two to which it rounds. -/
def exactNumber? : Value → Option Float
  | .int n word =>
    let x := floatOfInt n
    if n = word.greatest || orderWithFloat n x == .eq then some x else none
  | v => number? v

/-- The order of a number and a binary64 number. -/
def orderNumberWithFloat? (v : Value) (x : Float) : Option Ordering :=
  match exactNumber? v, v with
  | some y, _ => some (compare (floatRank y) (floatRank x))
  | none, .int n _ => some (orderWithFloat n x)
  | none, _ => none

/-- The order of two numbers or truth values. -/
def orderNumbers? (a b : Value) : Option Ordering :=
  match a, b with
  | .float x, b => (orderNumberWithFloat? b x).map Ordering.swap
  | a, .float y => orderNumberWithFloat? a y
  | .int m _, .int n _ => some (compare m n)
  | a, b => (integers? a b).map fun p => compare p.1 p.2

/-- Whether two numbers or truth values are equal; zeros are, whatever their signs. -/
def equalNumbers (a b : Value) : Bool :=
  match a, b with
  | .float x, b | b, .float x => (exactNumber? b).any (· == x)
  | a, b => (integers? a b).any fun p => p.1 == p.2

def orderTexts (s t : String) : Ordering := if s < t then .lt else if s = t then .eq else .gt

mutual

/-- The order of values without loops and procedures, first by kind. -/
def orderPlain : Value → Value → Ordering
  | .list xs p i, .list ys q j =>
    if i.same j then .eq
    else (compare (Value.listKind p).rank (Value.listKind q).rank).then (orderItems xs ys)
  | .map xs _ i, .map ys _ j => if i.same j then .eq else orderEntries xs ys
  | .string s _, .string t _ => orderTexts s t
  | .function f, .function g => orderTexts f g
  | a, b =>
    match compare a.kind.rank b.kind.rank with
    | .eq => (orderNumbers? a b).getD .eq
    | o => o

def orderItems : List Value → List Value → Ordering
  | [], [] => .eq
  | [], _ => .lt
  | _, [] => .gt
  | x :: xs, y :: ys => (orderPlain x y).then (orderItems xs ys)

def orderEntries : List (Value × Value) → List (Value × Value) → Ordering
  | [], [] => .eq
  | [], _ => .lt
  | _, [] => .gt
  | (k, v) :: xs, (l, w) :: ys =>
    ((orderPlain k l).then (orderPlain v w)).then (orderEntries xs ys)

end

/-- The order of values; loops and procedures are maps of their fields. -/
def order (a b : Value) : Ordering := orderPlain a.withFields b.withFields

/-- The value of a key among entries. -/
def findEntry (key : Value) : List (Value × Value) → Option Value
  | [] => none
  | (k, v) :: rest => if order key k == .eq then some v else findEntry key rest

mutual

/-- Whether values without loops and procedures are equal. -/
def equalPlain : Value → Value → Bool
  | .none, .none => true
  | .list xs _ i, .list ys _ j => i.same j || equalItems xs ys
  | .map xs _ i, .map ys _ j => i.same j || xs.length == ys.length && equalEntries xs ys
  | .string s _, .string t _ => s == t
  | .function f, .function g => f == g
  | a, b => a.isUndefined && b.isUndefined || equalNumbers a b

def equalItems : List Value → List Value → Bool
  | [], [] => true
  | x :: xs, y :: ys => equalPlain x y && equalItems xs ys
  | _, _ => false

/-- Whether the second map has all entries of the first one. -/
def equalEntries : List (Value × Value) → List (Value × Value) → Bool
  | [], _ => true
  | (k, v) :: xs, ys => (findEntry k ys).any (equalPlain v) && equalEntries xs ys

end

/-- Whether values are equal; loops and procedures are maps of their fields. -/
def equal (a b : Value) : Bool := equalPlain a.withFields b.withFields

/-- The entries with the value of `key` set; a key that is there stays. -/
def insertEntry (key value : Value) : List (Value × Value) → List (Value × Value)
  | [] => [(key, value)]
  | (k, v) :: rest =>
    match order key k with
    | .lt => (key, value) :: (k, v) :: rest
    | .eq => (k, value) :: rest
    | .gt => (k, v) :: insertEntry key value rest

/-- The map of the pairs; of two values for one key the last one stays. -/
def mapOf (pairs : List (Value × Value)) (role : MapRole) : Value :=
  .map (pairs.foldl (fun entries p => insertEntry p.1 p.2 entries) []) role .unknown

/-! ## Arithmetic -/

def unsupported (op : Operator) (a b : Value) : Fault :=
  .invalid ("tried to use " ++ op.symbol ++ " operator on unsupported types " ++ a.kind.name ++
    " and " ++ b.kind.name)

def uncomputable (op : Operator) (a b : Value) : Fault :=
  .invalid ("unable to calculate " ++ a.toText ++ " " ++ op.symbol ++ " " ++ b.toText)

/-- The power of an integer, if the exponent is a 32-bit number and the result fits. -/
def power? (a b : Int) : Option Int :=
  if b < 0 ∨ Int.pow 2 32 ≤ b then none
  else if a.natAbs ≤ 1 then some (a.pow (if b = 0 then 0 else 2 - b.toNat % 2))
  else if b ≤ 127 then some (a.pow b.toNat)
  else none

def integerResult? (op : Operator) (a b : Int) : Option Int :=
  match op with
  | .add => some (a + b)
  | .sub => some (a - b)
  | .mul => some (a * b)
  | .intDiv => if b = 0 then none else some (a / b)
  | .rem => if b = 0 || a = -Int.pow 2 127 && b = -1 then none else some (a % b)
  | .pow => power? a b
  | _ => none

def floatResult (op : Operator) (x y : Float) : Float :=
  match op with
  | .add => x + y
  | .sub => x - y
  | .mul => x * y
  | .div => x / y
  | .intDiv => Decimal.quotient x y
  | .rem => Decimal.remainder x y
  | _ => Float.pow x y

/-- An operator on two numbers or truth values. -/
def onNumbers (op : Operator) (a b : Value) : Except Fault Value :=
  match operands? a b with
  | none => .error (unsupported op a b)
  | some (.floats x y) => .ok (.float (floatResult op x y))
  | some (.ints m n) =>
    match (integerResult? op m n).filter isWord with
    | some r => .ok (.result r)
    | none => .error (uncomputable op a b)

/-- `n` copies of a text one after the other. -/
def copies (n : Nat) (s : String) : String :=
  if _ : n = 0 ∨ s.isEmpty then ""
  else
    let half := copies (n / 2) s
    if n % 2 = 0 then half ++ half else half ++ half ++ s
  termination_by n
  decreasing_by omega

/-- The most bytes that copies of a text may have. -/
def copiesLimit : Nat := 100000000

def repeatText (s : String) (n : Value) : Except Fault Value :=
  match count? n with
  | some n =>
    if copiesLimit < n * s.utf8ByteSize then .error (.invalid "repeated string is too large")
    else .ok (.text (copies n s))
  | none => .error (.invalid "strings can only be multiplied with integers")

/-- The items of a list, and how many times over it has them. -/
def copied? : Value → Option (List Value × Nat)
  | .list items .. => some (items, 1)
  | .copies items times _ => some (items, times)
  | _ => none

def repeatList (items : List Value) (times : Nat) (n : Value) : Except Fault Value :=
  match count? n with
  | some n => .ok (.copies items (times * n) .unknown)
  | none => .error (.invalid "sequences and iterables can only be multiplied with integers")

/-- How many additions of lists, one of the sum of another, a list comes from. -/
def additionsOf : Value → Nat
  | .list _ (.computed n) _ => n
  | _ => 0

/-- So many additions may be one of the sum of another.  The sum of one more is
    written down and counts as a sequence. -/
def additionLimit : Nat := 32

/-- The list of the items of a sum. -/
def sumOf (additions : Nat) (items : List Value) : Value :=
  if additionLimit < additions then .sequence items
  else .list items (.computed additions) .unknown

def arithmetic (op : Operator) (a b : Value) : Except Fault Value :=
  match op, a, b with
  | .div, a, b =>
    match number? a, number? b with
    | some x, some y => .ok (.float (x / y))
    | _, _ => .error (unsupported op a b)
  | .add, .string s _, .string t _ => .ok (.text (s ++ t))
  | .add, a, b =>
    match copied? a, copied? b with
    | some (xs, m), some (ys, n) =>
      .ok (sumOf (max (additionsOf a) (additionsOf b) + 1) (copiesOf m xs ++ copiesOf n ys))
    | _, _ => onNumbers op a b
  | .mul, .string s _, n | .mul, n, .string s _ => repeatText s n
  | .mul, a, b =>
    match copied? a, copied? b with
    | some (items, times), _ => repeatList items times b
    | none, some (items, times) =>
      if a.kind = .map ∨ a.kind = .object then onNumbers op a b else repeatList items times a
    | none, none => onNumbers op a b
  | op, a, b => onNumbers op a b

/-- The negated number.  The least word has no negation, and the number that
    would be its negation is its own. -/
def negate : Value → Except Fault Value
  | .float x => .ok (.float (-x))
  | .int n word =>
    if n = Int.pow 2 127 then .ok (.int n word)
    else if n = -Int.pow 2 127 then .error (.invalid "overflow")
    else if isWord n then .ok (.result (-n))
    else .error (.ofKind .invalidOperation)
  | _ => .error (.ofKind .invalidOperation)

/-! ## Missing values -/

/-- The value, which must not be missing. -/
def present : Value → Except Fault Value
  | .undefined => .error (.ofKind .undefinedValue)
  | v => .ok v

/-- Whether a condition holds; a missing value is a fault. -/
def truth (v : Value) : Except Fault Bool := (present v).map Value.isTrue

/-! ## Membership and access -/

/-- Whether a container has a value: a text a part, a list an item, a map a key. -/
def contains (container v : Value) : Except Fault Bool :=
  match container with
  | .nothing => .ok false
  | .string s _ => .ok (Text.occurs v.toText.toList s.toList)
  | .list items .. => .ok (items.any (equal · v))
  | .copies items times _ => .ok (times != 0 && items.any (equal · v))
  | .function _ => .ok false
  | container =>
    match container.entries? with
    | some entries => .ok (findEntry v entries).isSome
    | none => .error (.invalid "cannot perform a containment check on this value")

/-- An operator on two values that are not missing. -/
def Operator.applyPresent (op : Operator) (a b : Value) : Except Fault Value :=
  match op with
  | .eq => .ok (.bool (equal a b))
  | .ne => .ok (.bool !(equal a b))
  | .lt => .ok (.bool (order a b = .lt))
  | .le => .ok (.bool (order a b ≠ .gt))
  | .gt => .ok (.bool (order a b = .gt))
  | .ge => .ok (.bool (order a b ≠ .lt))
  | .isIn => (contains b a).map .bool
  | .notIn => (contains b a).map fun found => .bool !found
  | .concat => .ok (.text (a.toText ++ b.toText))
  | op => arithmetic op a b

def Operator.isArithmetic (op : Operator) : Bool :=
  op ∈ [.add, .sub, .mul, .div, .intDiv, .rem, .pow]

/-- Arithmetic reports the kinds of its operands, a missing one among them; the
    other operators refuse a missing operand. -/
def Operator.apply (op : Operator) (a b : Value) : Except Fault Value := do
  if !op.isArithmetic then
    let _ ← present a
    let _ ← present b
  op.applyPresent a b

/-- A part of a value, or a fault if the value itself is missing. -/
def orMissing (parent : Value) (found : Option Value) : Except Fault Value :=
  match found with
  | some v => .ok v
  | none => if parent.isUndefined then .error (.ofKind .undefinedValue) else .ok .undefined

/-- The value of a key in a map. -/
def field? (v key : Value) : Option Value := v.entries?.bind (findEntry key)

def attributeOf (v : Value) (name : String) : Except Fault Value :=
  orMissing v (field? v (.text name))

/-- An item of a list, counted from the end if the index is negative. -/
def itemAt {α : Type} (items : List α) (n : Int) : Option α :=
  if 0 ≤ n then items[n.toNat]?
  else if items.length < n.natAbs then none
  else items[items.length - n.natAbs]?

/-- An item of copies of a list. -/
def itemOfCopies {α : Type} (items : List α) (times : Nat) (n : Int) : Option α :=
  let length := items.length * times
  let n := if n < 0 then n + length else n
  if 0 ≤ n ∧ n < length then items[n.toNat % items.length]? else none

/-- The first item and every `n`-th one after it. -/
def everyNth {α : Type} (n : Nat) (items : List α) : List α :=
  items.zipIdx.filterMap fun p => if p.2 % n = 0 then some p.1 else none

def character (c : Char) : Value := .text (String.singleton c)

def itemOf (v key : Value) : Except Fault Value :=
  orMissing v <|
    match v with
    | .list items .. => (index? key).bind (itemAt items)
    | .copies items times _ => (index? key).bind (itemOfCopies items times)
    | .string s _ => ((index? key).bind (itemAt s.toList)).map character
    | v => field? v key

/-- A bound of a slice that is left out, or an integer. -/
def sliceBound (v : Value) : Except Fault (Option Int) :=
  match v, index? v with
  | .none, _ => .ok none
  | _, some n => .ok (some n)
  | v, none => .error (.invalid ("cannot convert " ++ v.kind.name ++ " to i64"))

/-- A position, counted from the end if it is negative. -/
def slicePosition (length : Nat) (n : Int) : Nat := (if n < 0 then n + length else n).toNat

/-- The items from `start` up to `stop`, every `step`-th of them.  With a negative
    step they are taken toward the front, without the item at `stop` as well, unless
    that is the first of all. -/
def sliceItems {α : Type} (items : List α) (start stop : Option Int) (step : Int) : List α :=
  let position := slicePosition items.length
  if 0 < step then
    let first := position (start.getD 0)
    let last := (stop.map position).getD items.length
    everyNth step.toNat ((items.take last).drop first)
  else
    let first := min (items.length - 1) ((start.map position).getD items.length)
    let last := (stop.map position).getD 0
    everyNth step.natAbs ((items.take (first + 1)).drop (if last = 0 then 0 else last + 1)).reverse

def sliceOf (v start stop step : Value) : Except Fault Value := do
  if v.isUndefined then throw (.ofKind .undefinedValue)
  let start ← sliceBound start
  let stop ← sliceBound stop
  let step := (← sliceBound step).getD 1
  if step = 0 then throw (.invalid "cannot slice by step size of 0")
  match v with
  | .none => return .sequence []
  | .string s _ => return .text (String.ofList (sliceItems s.toList start stop step))
  | .list items .. => return .computed (sliceItems items start stop step)
  | .copies items times _ => return .computed (sliceItems (copiesOf times items) start stop step)
  | v => throw (.invalid ("value of type " ++ v.kind.name ++ " cannot be sliced"))

/-- The values that a loop over a value runs through. -/
def iterate (v : Value) : Except Fault (List Value) :=
  match v with
  | .undefined => .error (.ofKind .undefinedValue)
  | .nothing | .none => .ok []
  | .string s _ => .ok (s.toList.map character)
  | v =>
    match v.items? with
    | some items => .ok items
    | none => .error (.invalid (v.kind.name ++ " is not iterable"))

end RenderChain.Jinja
