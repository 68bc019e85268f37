/-
  RenderChain/Decimal.lean
  ========================
  **Binary64 numbers and their decimals.**

  A finite number `m · 2^e` stands for every real that rounds to it: the reals
  between the midpoints to its two neighbours, the midpoints themselves exactly
  when `m` is even.  `shortest` looks for a decimal with 1, 2, … 17 digits in
  that interval, trying on each grid the two points next to the number, and
  takes the first grid with a hit; of two hits the nearer one, and of two
  equally near ones the one that a `Tie` says.  All comparisons are between
  products of natural numbers, so nothing is rounded on the way.

  The digits are always the shortest ones; what differs between one output
  format and another is which way a tie goes, which magnitudes are written
  positionally and how an exponent looks.  Those decisions are a `Layout`, and
  there are three: one for JSON, one for a number that a template prints, and one
  for a number inside a list or map that a template prints.

  Reading goes the other way: to the number that is nearest to what is written.
-/
import RenderChain.Text.Escape

namespace RenderChain.Decimal

/-! ## The shortest decimal -/

/-- Which of two equally near decimals is taken. -/
inductive Tie
  | toEven
  | up
  deriving DecidableEq, Repr

/-- The number `0.d₁d₂… · 10^point`, for the decimal digits `d₁d₂…` of `digits`. -/
structure Digits where
  digits : List Nat
  point : Int
  deriving DecidableEq, Repr

/-- The decimal digits of `n`, the first one first; none for zero. -/
def digitsOf (n : Nat) : List Nat :=
  go n n []
where
  go : Nat → Nat → List Nat → List Nat
    | 0, _, acc => acc
    | fuel + 1, n, acc => if n = 0 then acc else go fuel (n / 10) (n % 10 :: acc)

/-- Whether `a · 10^p` is at most `num / den`. -/
def leScaled (a : Nat) (p : Int) (num den : Nat) : Bool :=
  if 0 ≤ p then a * Nat.pow 10 p.toNat * den ≤ num else a * den ≤ num * Nat.pow 10 (-p).toNat

/-- Whether `num / den` is at most `a · 10^p`. -/
def scaledLe (num den : Nat) (a : Nat) (p : Int) : Bool :=
  if 0 ≤ p then num ≤ a * Nat.pow 10 p.toNat * den else num * Nat.pow 10 (-p).toNat ≤ a * den

/-- An interval of positive reals with a point in it, all over one denominator. -/
structure Interval where
  low : Nat
  value : Nat
  high : Nat
  den : Nat
  closed : Bool

/-- Whether `a · 10^p` lies in the interval. -/
def Interval.holds (i : Interval) (a : Nat) (p : Int) : Bool :=
  if i.closed then scaledLe i.low i.den a p && leScaled a p i.high i.den
  else !leScaled a p i.low i.den && !scaledLe i.high i.den a p

/-- The point of the grid `10^p` below or at the value. -/
def Interval.floor (i : Interval) (p : Int) : Nat :=
  if 0 ≤ p then i.value / (i.den * Nat.pow 10 p.toNat) else i.value * Nat.pow 10 (-p).toNat / i.den

/-- Whether the value is nearer to `a · 10^p` than to `(a + 1) · 10^p`, or goes there
    at equal distance. -/
def Interval.nearerBelow (i : Interval) (tie : Tie) (a : Nat) (p : Int) : Bool :=
  let (left, right) :=
    if 0 ≤ p then (2 * i.value, (2 * a + 1) * Nat.pow 10 p.toNat * i.den)
    else (2 * i.value * Nat.pow 10 (-p).toNat, (2 * a + 1) * i.den)
  if left = right then tie = .toEven && a % 2 = 0 else left < right

/-- The decimal of the grid `10^p` that stands for the interval, if there is one. -/
def Interval.pick (i : Interval) (tie : Tie) (p : Int) : Option Nat :=
  let a := i.floor p
  match i.holds a p && a != 0, i.holds (a + 1) p with
  | true, true => some (if i.nearerBelow tie a p then a else a + 1)
  | true, false => some a
  | false, true => some (a + 1)
  | false, false => none

/-- The first grid with a hit among `10^(top - 1)`, `10^(top - 2)`, …. -/
def Interval.search (i : Interval) (tie : Tie) : Nat → Int → Option (Nat × Int)
  | 0, _ => none
  | n + 1, top =>
    match i.pick tie (top - 1) with
    | some a => some (a, top - 1)
    | none => i.search tie n (top - 1)

/-- The least `t`, from `start` on, such that the value is below `10^t`. -/
def Interval.magnitude (i : Interval) : Nat → Int → Int
  | 0, start => start
  | n + 1, start => if i.floor start = 0 then start else i.magnitude n (start + 1)

/-- The reals that round to `m · 2^e`, where `atStep` says that the neighbour
    below is only half as far away as the one above. -/
def Interval.ofBinary (m : Nat) (e : Int) (atStep : Bool) : Interval :=
  let low := 4 * m - (if atStep then 1 else 2)
  let scale := if 2 ≤ e then Nat.pow 2 (e - 2).toNat else 1
  { low := low * scale
    value := 4 * m * scale
    high := (4 * m + 2) * scale
    den := if 2 ≤ e then 1 else Nat.pow 2 (2 - e).toNat
    closed := m % 2 == 0 }

/-- The shortest decimal for the positive number `m · 2^e`. -/
def shortest (tie : Tie) (m : Nat) (e : Int) (atStep : Bool) : Digits :=
  let i := Interval.ofBinary m e atStep
  let estimate : Int := ((Nat.log2 m : Int) + e) * 30103 / 100000 - 1
  let top := i.magnitude 4 estimate
  match i.search tie 18 top with
  | none => ⟨[], 0⟩
  | some (a, p) =>
    let ds := digitsOf a
    ⟨(ds.reverse.dropWhile (· == 0)).reverse, p + ds.length⟩

/-! ## Binary64 -/

/-- What a binary64 number is: its sign and one of four kinds of magnitude. -/
inductive Magnitude
  | zero
  | finite (m : Nat) (e : Int) (atStep : Bool)
  | infinite
  | notANumber

/-- Takes a binary64 number apart. -/
def decode (x : Float) : Bool × Magnitude :=
  let bits := x.toBits.toNat
  let negative := Nat.pow 2 63 ≤ bits
  let exponent : Nat := bits / Nat.pow 2 52 % Nat.pow 2 11
  let fraction := bits % Nat.pow 2 52
  let magnitude :=
    if exponent = 0x7FF then (if fraction = 0 then .infinite else .notANumber)
    else if exponent = 0 then (if fraction = 0 then .zero else .finite fraction (-1074) false)
    else .finite (Nat.pow 2 52 + fraction) ((exponent : Int) - 1075) (fraction = 0 && 1 < exponent)
  (negative, magnitude)

/-! ## Layouts -/

/-- The decisions of one output format.  A number `0.d₁d₂… · 10^point` is written
    positionally when `point` is within the bounds that are set. -/
structure Layout where
  tie : Tie
  leastPoint : Option Int
  greatestPoint : Option Int
  positiveExponent : String
  infinity : String
  notANumber : String

/-- JSON: positional from `1e-5` up to below `1e16`. -/
def Layout.json : Layout := ⟨.toEven, some (-4), some 16, "e+", "null", "null"⟩

/-- A number on its own: always positional. -/
def Layout.positional : Layout := ⟨.up, none, none, "e", "inf", "NaN"⟩

/-- A number inside a list or map: positional from `1e-4` up to below `1e16`. -/
def Layout.nested : Layout := ⟨.up, some (-3), some 16, "e", "inf", "NaN"⟩

def digitChar (d : Nat) : Char := Char.ofNat (48 + d)

def zeros (n : Nat) : List Char := List.replicate n '0'

/-- `d₁d₂…` with a point after the first `point` digits, at least one digit on
    either side. -/
def Digits.positional (d : Digits) : List Char :=
  let cs := d.digits.map digitChar
  if d.point ≤ 0 then '0' :: '.' :: zeros (-d.point).toNat ++ cs
  else
    let n := d.point.toNat
    if n < cs.length then cs.take n ++ '.' :: cs.drop n
    else cs ++ zeros (n - cs.length) ++ ['.', '0']

/-- `d₁.d₂…` with the exponent of its first digit. -/
def Digits.scientific (layout : Layout) (d : Digits) : List Char :=
  let exponent := d.point - 1
  let mantissa :=
    match d.digits.map digitChar with
    | [] => ['0']
    | [c] => [c]
    | c :: cs => c :: '.' :: cs
  mantissa ++
    (if exponent < 0 then "e-" ++ toString exponent.natAbs
      else layout.positiveExponent ++ toString exponent.natAbs).toList

def within (least greatest : Option Int) (n : Int) : Bool :=
  least.all (· ≤ n) && greatest.all (n ≤ ·)

/-- The text of `x`; zero keeps its sign. -/
def Layout.text (layout : Layout) (x : Float) : String :=
  let (negative, magnitude) := decode x
  let sign := if negative then "-" else ""
  match magnitude with
  | .notANumber => layout.notANumber
  | .infinite => sign ++ layout.infinity
  | .zero => sign ++ "0.0"
  | .finite m e atStep =>
    let d := shortest layout.tie m e atStep
    sign ++ String.ofList
      (if within layout.leastPoint layout.greatestPoint d.point then d.positional
        else d.scientific layout)

/-! ## Reading -/

/-- The value of one or more digits of a base. -/
def digits? (base : Nat) (cs : List Char) : Option Nat :=
  if cs.isEmpty then none
  else
    cs.foldlM
      (fun n c => do
        let d ← Text.hexValue? c
        if d < base then some (n * base + d) else none)
      0

/-- A whole number with a sign or without. -/
def signed? : List Char → Option Int
  | '-' :: ds => (digits? 10 ds).map fun n => -(n : Int)
  | '+' :: ds => (digits? 10 ds).map fun n => (n : Int)
  | ds => (digits? 10 ds).map fun n => (n : Int)

def isExponentMark (c : Char) : Bool := c = 'e' || c = 'E'

/-- Numbers of ten to a greater power are infinite, to a lesser negative one zero. -/
def exponentLimit : Int := 400

/-- Digits with a point or an exponent or both or none, without a sign in front. -/
def float? (cs : List Char) : Option Float := do
  let mantissa := cs.takeWhile fun c => !isExponentMark c
  let whole := mantissa.takeWhile (· ≠ '.')
  let fraction := (mantissa.dropWhile (· ≠ '.')).drop 1
  let exponent ← if mantissa.length = cs.length then pure 0
    else signed? (cs.drop (mantissa.length + 1))
  let digits ← digits? 10 (whole ++ fraction)
  let scale := exponent - fraction.length
  let magnitude := scale + ((whole ++ fraction).dropWhile (· = '0')).length
  if digits = 0 ∨ magnitude < -exponentLimit then return 0.0
  if exponentLimit < magnitude then return 1.0 / 0.0
  return if scale < 0 then Float.ofScientific digits true scale.natAbs
    else Float.ofScientific digits false scale.toNat

/-! ## Division with a remainder -/

/-- The remainder of the division that rounds toward zero; it has the sign of `x`. -/
def remainder (x y : Float) : Float :=
  match decode x, decode y with
  | (_, .zero), (_, .finite ..) | (_, .zero), (_, .infinite) => x
  | (_, .finite ..), (_, .infinite) => x
  | (negative, .finite m e _), (_, .finite n f _) =>
    let scale := min e f
    let r := (m * Nat.pow 2 (e - scale).toNat) % (n * Nat.pow 2 (f - scale).toNat)
    let magnitude := Float.scaleB (Float.ofNat r) scale
    if negative then -magnitude else magnitude
  | _, _ => 0.0 / 0.0

/-- The quotient that leaves a remainder that is not negative. -/
def quotient (x y : Float) : Float :=
  let q := x / y
  let whole := if q < 0.0 then q.ceil else q.floor
  if remainder x y < 0.0 then
    if 0.0 < y then whole - 1.0 else whole + 1.0
  else whole

end RenderChain.Decimal
