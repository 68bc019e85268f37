/-
  RenderChain/Jinja/Filter.lean
  =============================
  **Filters and functions.**

  A filter changes the value in front of it, which is the first of its arguments;
  arguments with names arrive as one map, the last of them.  Most filters want a
  text and take any value for its text, but no missing value and no named
  arguments.  A text that is made from a safe one by changing, removing or
  reordering its characters is safe again; a text that is put together from
  parts is safe only if the parts were escaped.
-/
import RenderChain.Jinja.Operator
import RenderChain.Text.CaseMap
import RenderChain.Text.Escape
import RenderChain.Text.Unicode

namespace RenderChain.Jinja

/-! ## Arguments -/

def tooMany : Fault := .ofKind .tooManyArguments

def missing : Fault := .ofKind .missingArgument

/-- Reads the arguments of a call from the first one on. -/
abbrev Reading (α : Type) := StateT (List Value) (Except Fault) α

namespace Reading

/-- The next argument, if there is one. -/
def value? : Reading (Option Value) := fun
  | [] => .ok (none, [])
  | v :: rest => .ok (some v, rest)

def value : Reading Value := do
  match ← value? with
  | some v => return v
  | none => throw missing

/-- The next argument, unless it is missing or `none`. -/
def given? : Reading (Option Value) := do
  match ← value? with
  | some v => return if v.isUndefined || v.kind = .none then none else some v
  | none => return none

/-- A text, or a value that is taken for its text. -/
def textOf (v : Value) : Except Fault Value :=
  match v with
  | .undefined => .error (.ofKind .undefinedValue)
  | .string s safe => .ok (.string s safe)
  | .map _ .arguments _ => .error (.invalid "cannot convert kwargs to string")
  | v => .ok (.text v.toText)

def text : Reading Value := do textOf (← value)

def text? : Reading (Option Value) := do
  match ← given? with
  | some v => return some (← textOf v)
  | none => return none

def integerOf (v : Value) : Except Fault Int :=
  match index? v with
  | some n => .ok n
  | none => .error (.invalid ("cannot convert " ++ v.kind.name ++ " to isize"))

def integer : Reading Int := do integerOf (← value)

def integer? : Reading (Option Int) := do
  match ← given? with
  | some v => return some (← integerOf v)
  | none => return none

/-- What is read from all arguments; further ones are a fault. -/
def all {α : Type} (read : Reading α) (arguments : List Value) : Except Fault α := do
  match ← read.run arguments with
  | (a, []) => return a
  | _ => throw tooMany

end Reading

/-! ## Filters -/

/-- What a filter makes of its arguments where output is escaped or is not. -/
abbrev Filter := (escaping : Bool) → List Value → Except Fault Value

/-- A filter on its input that has no other arguments. -/
def onValue (change : Value → Except Fault Value) : Filter := fun _ arguments => do
  change (← Reading.value.all arguments)

/-- A filter on the text of its input that has no other arguments. -/
def onText (change : String → Value) : Filter := fun _ arguments => do
  return change (← Reading.text.all arguments).toText

/-- A text made from the characters of another one, and as safe as that one. -/
def alter (change : List Char → List Char) (v : Value) : Value :=
  .string (String.ofList (change v.toText.toList)) v.isSafe

/-- A filter that changes a text character by character. -/
def onCharacters (change : List Char → List Char) : Filter := fun _ arguments => do
  return alter change (← Reading.text.all arguments)

/-- A safe text of a value, escaped unless it was safe before. -/
def escaped (v : Value) : Value :=
  if v.isSafe then v else .string (Text.escapeMarkup v.toText) true

def lengthOf (v : Value) : Except Fault Value :=
  match v with
  | .string s _ => .ok (.count s.length)
  | .copies items times _ => .ok (.count (items.length * times))
  | v =>
    match v.items? with
    | some items => .ok (.count items.length)
    | none => .error (.invalid ("cannot calculate length of value of type " ++ v.kind.name))

def firstOf (v : Value) : Except Fault Value :=
  match v with
  | .string s _ => .ok ((s.toList.head?.map character).getD .undefined)
  | .copies items times _ => .ok (((items.take times).head?).getD .undefined)
  | v =>
    match v.items? with
    | some items => .ok (items.head?.getD .undefined)
    | none => .error (.invalid "cannot get first item from value")

/-- The last item; the last character of a text is as safe as the text. -/
def lastOf : Value → Except Fault Value
  | .string s safe =>
    .ok ((s.toList.getLast?.map fun c => .string (String.singleton c) safe).getD .undefined)
  | .list items .. => .ok (items.getLast?.getD .undefined)
  | .copies items times _ => .ok ((if times = 0 then none else items.getLast?).getD .undefined)
  | _ => .error (.invalid "cannot get last item from value")

/-- The items of a list from the last one on; the keys of a map stay in order. -/
def reversed (v : Value) : Except Fault Value :=
  match v with
  | .undefined | .nothing | .none => .ok v
  | .string .. => .ok (alter List.reverse v)
  | .map entries .. => .ok (.computed (entries.map Prod.fst))
  | v =>
    match v.items? with
    | some items => .ok (.computed items.reverse)
    | none => .error (.invalid ("cannot reverse values of type " ++ v.kind.name))

/-- The items of a value with a separator between them.  Where output is
    escaped, one safe text among the items and the separator makes the others be
    escaped as if they were printed, and the result safe. -/
def joined (escaping : Bool) (items : List Value) (separator : Value) : Except Fault Value :=
  if escaping && (separator.isSafe || items.any Value.isSafe) then do
    let texts ← items.mapM fun v => return (escaped (← present v)).toText
    return .string ((escaped separator).toText.intercalate texts) true
  else .ok (.text (separator.toText.intercalate (items.map Value.toText)))

def joinFilter : Filter := fun escaping arguments => do
  let read : Reading (Value × Option Value) := do return (← Reading.value, ← Reading.text?)
  let (v, separator) ← read.all arguments
  let separator := separator.getD (.text "")
  match v with
  | .undefined | .nothing | .none => return .text ""
  | .string s _ => joined escaping (s.toList.map character) separator
  | v =>
    match v.items? with
    | some items => joined escaping items separator
    | none => throw (.invalid ("cannot join value of type " ++ v.kind.name))

def trimFilter : Filter := fun _ => Reading.all do
  let v ← Reading.text
  match ← Reading.text? with
  | none => return alter Text.trim v
  | some set => return alter (Text.trimOf set.toText.toList) v

/-- Where output is escaped and one of the texts is safe, so is the result: the
    whole and what is put into it are escaped. -/
def replaceFilter : Filter := fun escaping => Reading.all do
  let v ← Reading.text
  let old ← Reading.text
  let new ← Reading.text
  let replaced (v new : Value) : List Char :=
    Text.replace old.toText.toList new.toText.toList v.toText.toList
  if escaping && (v.isSafe || old.isSafe || new.isSafe) then
    return .string (String.ofList (replaced (escaped v) (escaped new))) true
  else return .text (String.ofList (replaced v new))

/-- The input, or the other value if the input is missing; with a true third
    argument, also if the input does not hold as a condition. -/
def defaultFilter : Filter := fun _ arguments => do
  let read : Reading (Value × Option Value × Option Value) := do
    return (← Reading.value, ← Reading.value?, ← Reading.value?)
  let (v, other, loose) ← read.all arguments
  let loose ← truth (loose.getD (.bool false))
  return if v.isUndefined || (loose && !v.isTrue) then other.getD (.text "") else v

/-- The filters that every environment has. -/
def standardFilters : List (String × Filter) :=
  [("upper", onCharacters Text.toUpper),
    ("lower", onCharacters Text.toLower),
    ("safe", onText fun s => .string s true),
    ("escape", onValue fun v => .ok (escaped v)),
    ("e", onValue fun v => .ok (escaped v)),
    ("length", onValue lengthOf),
    ("count", onValue lengthOf),
    ("first", onValue firstOf),
    ("last", onValue lastOf),
    ("reverse", onValue reversed),
    ("join", joinFilter),
    ("trim", trimFilter),
    ("replace", replaceFilter),
    ("default", defaultFilter),
    ("d", defaultFilter)]

/-! ## Functions -/

/-- What a function makes of its arguments. -/
abbrev Function := List Value → Except Fault Value

/-- The longest list that `range` makes. -/
def rangeLimit : Nat := 100000

/-- `count` numbers from `start` on. -/
def progression (start step : Int) (count : Nat) : List Value :=
  (List.range count).map fun (i : Nat) => .int (start + step * (i : Int)) .signed64

def rangeOf (start stop step : Int) : Except Fault Value :=
  if step = 0 then .error (.invalid "cannot create range with step of 0")
  else
    let span := if 0 < step then stop - start else start - stop
    let count := (span + step.natAbs - 1) / step.natAbs
    if (rangeLimit : Int) < count then .error (.invalid "range has too many elements")
    else .ok (.computed (progression start step count.toNat))

/-- Numbers up to a limit, or between two limits, perhaps with a step. -/
def rangeFunction : Function := fun arguments => do
  let read : Reading (Int × Option Int × Option Int) := do
    return (← Reading.integer, ← Reading.integer?, ← Reading.integer?)
  let (first, second, step) ← read.all arguments
  let (start, stop) := match second with
    | none => (0, first)
    | some stop => (first, stop)
  rangeOf start stop (step.getD 1)

def standardFunctions : List (String × Function) := [("range", rangeFunction)]

end RenderChain.Jinja
