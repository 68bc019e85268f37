/-
  RenderChain/Json/Parse.lean
  ===========================
  **Reading JSON.**

  Variables and globals arrive as JSON texts.  A number without a fraction and
  an exponent is an integer if it fits in 64 bits, with or without a sign; every
  other number is a binary64 number, and so is `-0`.  A binary64 number is read
  as its first digits, as many as fit in 64 bits, scaled by one power of ten.

  Every function returns what it read and the rest of the text.  The nesting of
  a text is at most its length, and that bounds the recursion.
-/
import RenderChain.Json

namespace RenderChain.Json

def isSpace (c : Char) : Bool := c = ' ' || c = '\n' || c = '\t' || c = '\r'

def skipSpace (cs : List Char) : List Char := cs.dropWhile isSpace

/-! ## Numbers -/

def wordLimit : Nat := Nat.pow 2 64

/-- Appends digits to a significand while it fits in 64 bits; returns the number
    of digits that did not fit as well. -/
def digitsInto : Nat → List Char → Nat × Nat × Nat
  | n, [] => (n, 0, 0)
  | n, c :: rest =>
    let next := n * 10 + (c.toNat - 48)
    if next < wordLimit then
      let (m, taken, dropped) := digitsInto next rest
      (m, taken + 1, dropped)
    else (n, 0, rest.length + 1)

/-- `significand · 10 ^ exponent`, by one multiplication or by divisions. -/
def scale (significand : Nat) (exponent : Int) : Option Float :=
  let f := significand.toUInt64.toFloat
  let power (n : Nat) : Float := Float.ofScientific 1 false n
  if 0 ≤ exponent then
    if 308 < exponent then (if f == 0.0 then some f else none)
    else
      let g := f * power exponent.toNat
      if g.isInf then none else some g
  else
    let n := exponent.natAbs
    if n ≤ 308 then some (f / power n)
    else if n ≤ 616 then some (f / power 308 / power (n - 308))
    else some (f / power 308 / power 308 / power (min (n - 616) 308))

/-- The exponent after `e`, with the rest. -/
def exponent? (cs : List Char) : Option (Int × List Char) :=
  let (negative, cs) := match cs with
    | '-' :: rest => (true, rest)
    | '+' :: rest => (false, rest)
    | cs => (false, cs)
  let digits := cs.takeWhile Char.isDigit
  if digits.isEmpty then none
  else
    let n : Int := digits.foldl (fun n c => n * 10 + (c.toNat - 48)) 0
    some (if negative then -n else n, cs.dropWhile Char.isDigit)

/-- A number at the start of the text. -/
def number? (cs : List Char) : Option (Json × List Char) := do
  let (negative, cs) := match cs with
    | '-' :: rest => (true, rest)
    | cs => (false, cs)
  let whole := cs.takeWhile Char.isDigit
  if whole.isEmpty then none
  if whole.length > 1 && whole.head? = some '0' then none
  let afterWhole := cs.dropWhile Char.isDigit
  let (n, _, tooLong) := digitsInto 0 whole
  let (fraction, afterFraction) := match afterWhole with
    | '.' :: rest => (some (rest.takeWhile Char.isDigit), rest.dropWhile Char.isDigit)
    | rest => (none, rest)
  if fraction = some [] then none
  let (power, rest) ← match afterFraction with
    | 'e' :: rest | 'E' :: rest => do
      let (e, rest) ← exponent? rest
      pure (some e, rest)
    | rest => pure (none, rest)
  if fraction.isNone && power.isNone && tooLong = 0 &&
      (!negative || (0 < n && n ≤ Nat.pow 2 63)) then
    return (.int (if negative then -n else n), rest)
  let (m, taken, _) := if tooLong = 0 then digitsInto n (fraction.getD []) else (n, 0, 0)
  let x ← scale m (tooLong - taken + power.getD 0)
  return (.float (if negative then -x else x), rest)

/-! ## Strings -/

/-- Four hexadecimal digits. -/
def unit? : List Char → Option (Nat × List Char)
  | a :: b :: c :: d :: rest => do
    return ((((← Text.hexValue? a) * 16 + (← Text.hexValue? b)) * 16 + (← Text.hexValue? c)) * 16 +
      (← Text.hexValue? d), rest)
  | _ => none

/-- A character written after `\u`, as one number or as a pair of surrogates. -/
def escaped? (cs : List Char) : Option (Char × List Char) := do
  let (high, rest) ← unit? cs
  if high < 0xD800 ∨ 0xDFFF < high then return (Char.ofNat high, rest)
  if 0xDC00 ≤ high then none
  match rest with
  | '\\' :: 'u' :: rest =>
    let (low, rest) ← unit? rest
    if low < 0xDC00 ∨ 0xDFFF < low then none
    return (Char.ofNat (0x10000 + (high - 0xD800) * 0x400 + (low - 0xDC00)), rest)
  | _ => none

/-- The characters up to the closing quotation mark. -/
def chars? : (fuel : Nat) → List Char → Option (List Char × List Char)
  | 0, _ => none
  | _ + 1, [] => none
  | _ + 1, '"' :: rest => some ([], rest)
  | fuel + 1, '\\' :: c :: rest => do
    let (c, rest) ←
      match c with
      | '"' | '\\' | '/' => some (c, rest)
      | 'b' => some ('\x08', rest)
      | 'f' => some ('\x0c', rest)
      | 'n' => some ('\n', rest)
      | 'r' => some ('\r', rest)
      | 't' => some ('\t', rest)
      | 'u' => escaped? rest
      | _ => none
    let (cs, rest) ← chars? fuel rest
    return (c :: cs, rest)
  | fuel + 1, c :: rest =>
    if c.toNat < 0x20 then none
    else do
      let (cs, rest) ← chars? fuel rest
      return (c :: cs, rest)

/-- A string after its opening quotation mark. -/
def string? (cs : List Char) : Option (String × List Char) := do
  let (s, rest) ← chars? (cs.length + 1) cs
  return (String.ofList s, rest)

/-! ## Values -/

/-- The text after `word`. -/
def after? (word : String) (cs : List Char) : Option (List Char) :=
  if word.toList.isPrefixOf cs then some (cs.drop word.length) else none

mutual

/-- A value at the start of the text. -/
def value? : (fuel : Nat) → List Char → Option (Json × List Char)
  | 0, _ => none
  | fuel + 1, cs =>
    match skipSpace cs with
    | '"' :: rest => do
      let (s, rest) ← string? rest
      return (.string s, rest)
    | '[' :: rest =>
      match skipSpace rest with
      | ']' :: rest => some (.array [], rest)
      | rest => do
        let (items, rest) ← items? fuel rest
        return (.array items, rest)
    | '{' :: rest =>
      match skipSpace rest with
      | '}' :: rest => some (.object [], rest)
      | rest => do
        let (fields, rest) ← fields? fuel rest
        return (.object (Keyed.ofList fields), rest)
    | 'n' :: rest => (after? "ull" rest).map fun rest => (.null, rest)
    | 't' :: rest => (after? "rue" rest).map fun rest => (.bool true, rest)
    | 'f' :: rest => (after? "alse" rest).map fun rest => (.bool false, rest)
    | cs => number? cs

/-- Values up to the closing bracket. -/
def items? : (fuel : Nat) → List Char → Option (List Json × List Char)
  | 0, _ => none
  | fuel + 1, cs => do
    let (item, rest) ← value? fuel cs
    match skipSpace rest with
    | ',' :: rest =>
      let (items, rest) ← items? fuel rest
      return (item :: items, rest)
    | ']' :: rest => return ([item], rest)
    | _ => none

/-- Named values up to the closing brace. -/
def fields? : (fuel : Nat) → List Char → Option (List (String × Json) × List Char)
  | 0, _ => none
  | fuel + 1, cs => do
    match skipSpace cs with
    | '"' :: rest =>
      let (name, rest) ← string? rest
      match skipSpace rest with
      | ':' :: rest =>
        let (value, rest) ← value? fuel rest
        match skipSpace rest with
        | ',' :: rest =>
          let (fields, rest) ← fields? fuel rest
          return ((name, value) :: fields, rest)
        | '}' :: rest => return ([(name, value)], rest)
        | _ => none
      | _ => none
    | _ => none

end

/-- The value that a text is. -/
def parse? (text : String) : Option Json := do
  let cs := text.toList
  let (value, rest) ← value? (cs.length + 1) cs
  if (skipSpace rest).isEmpty then return value else none

end RenderChain.Json
