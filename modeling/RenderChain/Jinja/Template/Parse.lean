/-
  RenderChain/Jinja/Template/Parse.lean
  =====================================
  **Reading templates.**  Tokens become a tree by recursive descent, with one
  function for each level of binding.

  From the loosest to the tightest: a condition, `or`, `and`, `not`, comparison,
  `+` and `-`, `~`, `*` and division, `**`, filters and tests, access and calls,
  negation.  Comparisons may be chained: `a < b < c` asks for both.

  A fault is reported at the line of the last token that was taken.
-/
import RenderChain.Jinja.Template.Line
import RenderChain.Jinja.Token

namespace RenderChain.Jinja.Parse

/-- The tokens that are left, the fault behind them, and what was read so far. -/
structure State where
  tokens : List Located
  stop : Option ScanFault
  /-- Where the last token that was taken starts. -/
  line : Nat
  /-- How many expressions and statements are being read, one inside the other. -/
  depth : Nat
  inProcedure : Bool
  blocks : List (String × List Statement)

abbrev Parser := EStateM ScanFault State

/-! ## Tokens -/

def fail {α : Type} : Parser α := do throw ⟨.syntaxError, (← get).line⟩

/-- The fault behind the tokens; a bad escape is found only as the next token is
    looked at, and is reported at the one before it. -/
def State.fault (s : State) (fault : ScanFault) : ScanFault :=
  if fault.kind = .badEscape then { fault with line := s.line } else fault

/-- The next token, which stays; none at the end. -/
def peek : Parser (Option Token) := fun s =>
  match s.tokens, s.stop with
  | t :: _, _ => .ok (some t.token) s
  | [], some fault => .error (s.fault fault) s
  | [], none => .ok none s

/-- Takes the next token. -/
def take : Parser (Option Token) := fun s =>
  match s.tokens, s.stop with
  | t :: rest, _ => .ok (some t.token) { s with tokens := rest, line := t.line }
  | [], some fault => .error (s.fault fault) s
  | [], none => .ok none s

/-- The line of the token that was taken last. -/
def lastLine : Parser Nat := do return (← get).line

/-- The line of the next token. -/
def nextLine : Parser Nat := do
  match (← get).tokens with
  | t :: _ => return t.line
  | [] => lastLine

/-- Takes the next token if it is this one. -/
def skip (token : Token) : Parser Bool := do
  if (← peek) == some token then
    let _ ← take
    return true
  return false

def expect (token : Token) : Parser Unit := do
  if (← take) != some token then fail

def expectName : Parser String := do
  match ← take with
  | some (.ident name) => return name
  | _ => fail

def symbol (s : String) : Token := .symbol s

def isNext (tokens : List Token) : Parser Bool := do
  match ← peek with
  | some token => return tokens.any (· == token)
  | none => return false

/-- Templates nest at most so deep. -/
def nestingLimit : Nat := 150

/-- The most arguments of one call. -/
def argumentLimit : Nat := 2000

/-- Reads something one level further inside. -/
def nested {α : Type} (read : Parser α) : Parser α := do
  let depth := (← get).depth
  if nestingLimit ≤ depth then fail
  modify fun s => { s with depth := depth + 1 }
  let a ← read
  modify fun s => { s with depth := depth }
  return a

/-- The operator that a symbol of the list stands for. -/
def operatorAmong (table : List (String × Operator)) : Parser (Option Operator) := do
  match ← peek with
  | some (.symbol s) =>
    match table.lookup s with
    | some op =>
      let _ ← take
      return some op
    | none => return none
  | _ => return none

/-! ## Expressions -/

/-- Operands with operators of one level between them, from the left. -/
def leftToRight (fuel : Nat) (line : Nat) (table : List (String × Operator))
    (operand : Parser Expr) (left : Expr) : Parser Expr :=
  match fuel with
  | 0 => return left
  | fuel + 1 => do
    match ← operatorAmong table with
    | none => return left
    | some op => leftToRight fuel line table operand (.binary op left (← operand) line)

/-- The next operator if it compares. -/
def comparison : Parser (Option Operator) := do
  if ← skip (.ident "in") then return some .isIn
  if ← skip (.ident "not") then
    expect (.ident "in")
    return some .notIn
  operatorAmong [("==", .eq), ("!=", .ne), ("<", .lt), ("<=", .le), (">", .gt), (">=", .ge)]

/-- The words that name a constant. -/
def constant? (name : String) : Option Value :=
  match name with
  | "true" | "True" => some (.bool true)
  | "false" | "False" => some (.bool false)
  | "none" | "None" => some .none
  | _ => none

/-- Whether an argument without parentheses can follow the name of a test. -/
def startsTestArgument : Option Token → Bool
  | some (.ident name) => name ∉ ["and", "or", "else", "is"]
  | some (.string ..) | some (.int _) | some (.float _) => true
  | some (.symbol s) => s ∈ ["[", "\x7b", "+", "-"]
  | _ => false

/-- The rest of a name with periods in it. -/
def moreName : (fuel : Nat) → String → Parser String
  | 0, name => return name
  | fuel + 1, name => do
    if ← skip (symbol ".") then moreName fuel (name ++ "." ++ (← expectName))
    else return name

/-- Strings that follow a string belong to it. -/
def moreStrings : (fuel : Nat) → Parser String
  | 0 => return ""
  | fuel + 1 => do
    match ← peek with
    | some (.string s _) =>
      let _ ← take
      return s ++ (← moreStrings fuel)
    | _ => return ""

/-- Counts it as the end of the text if the text goes wrong right here. -/
def dropFault : Parser Unit :=
  modify fun s => if s.tokens.isEmpty then { s with stop := none } else s

mutual

def expression : (fuel : Nat) → Parser Expr
  | 0 => fail
  | fuel + 1 => nested (conditional fuel)

def conditional : (fuel : Nat) → Parser Expr
  | 0 => fail
  | fuel + 1 => do
    let line ← lastLine
    moreConditions fuel line (← disjunction fuel)

/-- `yes if condition else no`, again and again. -/
def moreConditions : (fuel : Nat) → (line : Nat) → Expr → Parser Expr
  | 0, _, _ => fail
  | fuel + 1, line, yes => do
    if ← skip (.ident "if") then
      let condition ← disjunction fuel
      let no ← if ← skip (.ident "else") then do pure (some (← conditional fuel)) else pure none
      moreConditions fuel (← lastLine) (.choose condition yes no line)
    else return yes

def disjunction : (fuel : Nat) → Parser Expr
  | 0 => fail
  | fuel + 1 => do
    let line ← nextLine
    moreDisjuncts fuel line (← conjunction fuel)

def moreDisjuncts : (fuel : Nat) → (line : Nat) → Expr → Parser Expr
  | 0, _, _ => fail
  | fuel + 1, line, left => do
    if ← skip (.ident "or") then
      moreDisjuncts fuel line (.or_ left (← conjunction fuel) line)
    else return left

def conjunction : (fuel : Nat) → Parser Expr
  | 0 => fail
  | fuel + 1 => do
    let line ← nextLine
    moreConjuncts fuel line (← negation fuel)

def moreConjuncts : (fuel : Nat) → (line : Nat) → Expr → Parser Expr
  | 0, _, _ => fail
  | fuel + 1, line, left => do
    if ← skip (.ident "and") then moreConjuncts fuel line (.and_ left (← negation fuel) line)
    else return left

def negation : (fuel : Nat) → Parser Expr
  | 0 => fail
  | fuel + 1 => do
    let line ← nextLine
    if ← skip (.ident "not") then return .not_ (← negation fuel) line
    else
      let line ← lastLine
      let left ← sum fuel
      match ← comparison with
      | none => return left
      | some op => moreComparisons fuel line (.binary op left (← sum fuel) line)

/-- Further links of a chain of comparisons. -/
def moreComparisons : (fuel : Nat) → (line : Nat) → Expr → Parser Expr
  | 0, _, _ => fail
  | fuel + 1, line, left => do
    match ← comparison with
    | none => return left
    | some op => moreComparisons fuel line (.chain op left (← sum fuel) line)

def sum : (fuel : Nat) → Parser Expr
  | 0 => fail
  | fuel + 1 => do
    let line ← nextLine
    leftToRight fuel line [("+", .add), ("-", .sub)] (concatenation fuel) (← concatenation fuel)

def concatenation : (fuel : Nat) → Parser Expr
  | 0 => fail
  | fuel + 1 => do
    let line ← nextLine
    leftToRight fuel line [("~", .concat)] (product fuel) (← product fuel)

def product : (fuel : Nat) → Parser Expr
  | 0 => fail
  | fuel + 1 => do
    let line ← nextLine
    leftToRight fuel line [("*", .mul), ("/", .div), ("//", .intDiv), ("%", .rem)] (power fuel)
      (← power fuel)

def power : (fuel : Nat) → Parser Expr
  | 0 => fail
  | fuel + 1 => do
    let line ← nextLine
    leftToRight fuel line [("**", .pow)] (filtered fuel) (← filtered fuel)

/-- An operand with its filters and tests. -/
def filtered : (fuel : Nat) → Parser Expr
  | 0 => fail
  | fuel + 1 => do moreFilters fuel (← operand fuel)

/-- A signed operand and what is accessed in it. -/
def operand : (fuel : Nat) → Parser Expr
  | 0 => fail
  | fuel + 1 => do
    let line ← nextLine
    access fuel line (← signed fuel)

def signed : (fuel : Nat) → Parser Expr
  | 0 => fail
  | fuel + 1 => do
    let line ← nextLine
    if ← skip (symbol "-") then return .negate (← signed fuel) line
    else nested (primary fuel)

/-- Filters and tests after an operand. -/
def moreFilters : (fuel : Nat) → Expr → Parser Expr
  | 0, _ => fail
  | fuel + 1, input => do
    if ← skip (symbol "|") then
      let first ← expectName
      let line ← lastLine
      let name ← moreName fuel first
      let arguments ← if ← skip (symbol "(") then arguments fuel else pure []
      moreFilters fuel (.filter name (some input) arguments line)
    else if ← skip (.ident "is") then
      let negated ← skip (.ident "not")
      let first ← expectName
      let line ← lastLine
      let name ← moreName fuel first
      let arguments ←
        if ← skip (symbol "(") then arguments fuel
        else if startsTestArgument (← peek) then do pure [(.inOrder, ← operand fuel)]
        else pure []
      let test := Expr.test name input arguments line
      moreFilters fuel (if negated then .not_ test line else test)
    else return input

/-- Attributes, items and calls after an operand that starts at the line. -/
def access : (fuel : Nat) → (line : Nat) → Expr → Parser Expr
  | 0, _, _ => fail
  | fuel + 1, line, parent => do
    let next ← nextLine
    if ← skip (symbol ".") then
      match ← take with
      | some (.ident name) => access fuel next (.attribute parent name line)
      | some (.int n) =>
        access fuel next (.item parent (.literal (.written n) (← lastLine)) line)
      | _ => fail
    else if ← skip (symbol "[") then
      match ← subscript fuel with
      | .inl key => access fuel next (.item parent key line)
      | .inr (start, stop, step) => access fuel next (.slice parent start stop step line)
    else if ← skip (symbol "(") then
      access fuel next (.call parent (← arguments fuel) line)
    else return parent

/-- What stands in brackets after an operand: a key, or the bounds of a slice and its step. -/
def subscript : (fuel : Nat) → Parser (Expr ⊕ (Option Expr × Option Expr × Option Expr))
  | 0 => fail
  | fuel + 1 => do
    let start ← bound fuel
    match start, ← skip (symbol "]") with
    | some key, true => return .inl key
    | none, true => fail
    | start, false =>
      expect (symbol ":")
      let stop ← bound fuel
      let step ← if ← skip (symbol ":") then bound fuel else pure none
      expect (symbol "]")
      return .inr (start, stop, step)

/-- A bound of a slice, if there is one. -/
def bound : (fuel : Nat) → Parser (Option Expr)
  | 0 => fail
  | fuel + 1 => do
    if ← isNext [symbol ":", symbol "]"] then return none
    return some (← expression fuel)

/-- Arguments up to the closing parenthesis, those with a name after the others. -/
def arguments : (fuel : Nat) → Parser (List (Passing × Expr))
  | 0 => fail
  | fuel + 1 => do
    let (positional, named) := (← argumentsFrom false 0 fuel).partition (·.1.isPositional)
    return positional ++ named

/-- Arguments as they are written, after some that were read; after one with a
    name, none goes by its order. -/
def argumentsFrom (named : Bool) (before : Nat) : (fuel : Nat) → Parser (List (Passing × Expr))
  | 0 => fail
  | fuel + 1 => do
    if ← skip (symbol ")") then return []
    let (passing, value) ← argument fuel
    if named && passing = .inOrder || argumentLimit ≤ before then fail
    let named := named || !passing.isPositional
    if ← skip (symbol ")") then return [(passing, value)]
    expect (symbol ",")
    return (passing, value) :: (← argumentsFrom named (before + 1) fuel)

def argument : (fuel : Nat) → Parser (Passing × Expr)
  | 0 => fail
  | fuel + 1 => do
    if ← skip (symbol "**") then return (.entries, ← expression fuel)
    if ← skip (symbol "*") then return (.items, ← expression fuel)
    let value ← expression fuel
    match value with
    | .variable name _ =>
      if ← skip (symbol "=") then return (.named name, ← expression fuel)
      return (.inOrder, value)
    | _ => return (.inOrder, value)

def primary : (fuel : Nat) → Parser Expr
  | 0 => fail
  | fuel + 1 => do
    match ← take with
    | none => fail
    | some token =>
      let line ← lastLine
      match token with
      | .ident name =>
        match constant? name with
        | some v => return .literal v line
        | none => return .variable name line
      | .string s escaped =>
        if !escaped then dropFault
        return .literal (.text (s ++ (← moreStrings fuel))) line
      | .int n => return .literal (.written n) line
      | .float x => return .literal (.float x) line
      | .symbol "(" => parenthesis fuel line
      | .symbol "[" => return .list (← items "]" fuel) line
      | .symbol "\x7b" => return .map (← entries fuel) line
      | _ => fail

/-- An expression in parentheses, or a list if there is a comma. -/
def parenthesis : (fuel : Nat) → (line : Nat) → Parser Expr
  | 0, _ => fail
  | fuel + 1, line => do
    if ← skip (symbol ")") then return .list [] line
    let first ← expression fuel
    if ← skip (symbol ",") then return .list (first :: (← items ")" fuel)) line
    expect (symbol ")")
    return first

/-- Expressions with commas between them, up to a closing bracket. -/
def items (closing : String) : (fuel : Nat) → Parser (List Expr)
  | 0 => fail
  | fuel + 1 => do
    if ← skip (symbol closing) then return []
    let first ← expression fuel
    if ← skip (symbol closing) then return [first]
    expect (symbol ",")
    return first :: (← items closing fuel)

/-- Keys and values up to the closing brace. -/
def entries : (fuel : Nat) → Parser (List (Expr × Expr))
  | 0 => fail
  | fuel + 1 => do
    if ← skip (symbol "\x7d") then return []
    let key ← expression fuel
    expect (symbol ":")
    let value ← expression fuel
    if ← skip (symbol "\x7d") then return [(key, value)]
    expect (symbol ",")
    return (key, value) :: (← entries fuel)

end

/-- Expressions up to the end of a tag, each after a comma. -/
def moreItems : (fuel : Nat) → Parser (List Expr)
  | 0 => fail
  | fuel + 1 => do
    if ← skip (symbol ",") then
      if ← isNext [.closeTag] then return []
      return (← expression fuel) :: (← moreItems fuel)
    return []

/-- An expression, or a list of several with commas between them. -/
def expressions (fuel : Nat) : Parser Expr := do
  let line ← nextLine
  let first ← expression fuel
  if ← isNext [symbol ","] then return .list (first :: (← moreItems fuel)) line
  return first

/-! ## Targets and filter chains -/

/-- Names that cannot be assigned. -/
def reserved : List String := ["true", "True", "false", "False", "none", "None", "loop", "self"]

def targetName : Parser String := do
  let name ← expectName
  if name ∈ reserved then fail
  return name

/-- A name, perhaps with attributes. -/
def moreTarget : (fuel : Nat) → Expr → Parser Expr
  | 0, _ => fail
  | fuel + 1, e => do
    if ← skip (symbol ".") then
      let name ← expectName
      moreTarget fuel (.attribute e name (← lastLine))
    else return e

def dottedTarget (fuel : Nat) : Parser Target := do
  let name ← targetName
  match ← moreTarget fuel (.variable name (← lastLine)) with
  | .attribute parent name line => return .attribute parent name line
  | _ => return .name name

mutual

/-- One target, or several with commas between them. -/
def target (dotted : Bool) : (fuel : Nat) → Parser Target
  | 0 => fail
  | fuel + 1 => do
    let line ← nextLine
    match ← targets dotted fuel with
    | ([t], false) => return t
    | (ts, _) => return .unpack ts line

/-- Targets, and whether there is a comma. -/
def targets (dotted : Bool) : (fuel : Nat) → Parser (List Target × Bool)
  | 0 => fail
  | fuel + 1 => do
    if ← isNext [symbol ")", .closeTag, .closeExpr, .ident "in"] then return ([], false)
    let first ← oneTarget dotted fuel
    if ← skip (symbol ",") then return (first :: (← targets dotted fuel).1, true)
    return ([first], false)

/-- A name, or targets in parentheses. -/
def oneTarget (dotted : Bool) : (fuel : Nat) → Parser Target
  | 0 => fail
  | fuel + 1 => do
    if ← skip (symbol "(") then
      let t ← target dotted fuel
      expect (symbol ")")
      return t
    if dotted then dottedTarget fuel else return .name (← targetName)

end

mutual

/-- An expression as a target, if it can be one. -/
def asTarget : Expr → Option Target
  | .variable name _ => some (.name name)
  | .attribute parent name line => some (.attribute parent name line)
  | .list items line => (asTargets items).map (.unpack · line)
  | _ => none

def asTargets : List Expr → Option (List Target)
  | [] => some []
  | e :: rest => do return (← asTarget e) :: (← asTargets rest)

end

/-- Filters up to the end of the tag, without an input for the first one. -/
def filterChain : (fuel : Nat) → Option Expr → Parser Expr
  | 0, _ => fail
  | fuel + 1, input => do
    if input.isNone && (← isNext [.closeTag]) then fail
    let first ← expectName
    let line ← lastLine
    let name ← moreName fuel first
    let arguments ← if ← skip (symbol "(") then arguments fuel else pure []
    let this := Expr.filter name input arguments line
    if ← isNext [.closeTag] then return this
    expect (symbol "|")
    filterChain fuel (some this)

/-! ## Statements -/

/-- The assignments of a `with` statement. -/
def assignments : (fuel : Nat) → Parser (List (Target × Expr))
  | 0 => fail
  | fuel + 1 => do
    let t ← oneTarget false fuel
    expect (symbol "=")
    let value ← expression fuel
    if ← isNext [.closeTag] then return [(t, value)]
    expect (symbol ",")
    return (t, value) :: (← assignments fuel)

/-- The parameters of a procedure, up to the closing parenthesis; once one has a
    default, all that follow have one. -/
def parameters (defaults : Bool) : (fuel : Nat) → Parser (List (String × Option Expr))
  | 0 => fail
  | fuel + 1 => do
    if ← skip (symbol ")") then return []
    let name ← targetName
    let default ←
      if ← skip (symbol "=") then do pure (some (← expression fuel))
      else
        if defaults then expect (symbol "=")
        pure none
    if ← skip (symbol ")") then return [(name, default)]
    expect (symbol ",")
    return (name, default) :: (← parameters default.isSome fuel)

/-- Whether `with context` or `without context` comes next; it changes nothing. -/
def contextClause : Parser Bool := do
  if (← skip (.ident "with")) || (← skip (.ident "without")) then
    expect (.ident "context")
    return true
  return false

/-- The names of an import, each with the name it gets. -/
def importedNames : (fuel : Nat) → Parser (List (String × String))
  | 0 => fail
  | fuel + 1 => do
    if ← isNext [.closeTag, .ident "with", .ident "without"] then return []
    let name ← targetName
    let given ← if ← skip (.ident "as") then targetName else pure name
    if ← isNext [.closeTag, .ident "with", .ident "without"] then return [(name, given)]
    expect (symbol ",")
    return (name, given) :: (← importedNames fuel)

/-- Whether a statement is a text of white space. -/
def isBlankText : Statement → Bool
  | .data text _ => text.all Text.isBlank
  | _ => false

mutual

/-- Statements up to a tag that starts with one of the words, which is returned
    and whose rest is left; without words, up to the end of the template. -/
def statements (ends : List String) : (fuel : Nat) → Parser (List Statement × String)
  | 0 => fail
  | fuel + 1 => do
    match ← take with
    | none => if ends.isEmpty then return ([], "") else fail
    | some (.data text) =>
      let line ← lastLine
      let (rest, last) ← statements ends fuel
      return (.data text line :: rest, last)
    | some .openExpr =>
      let line ← lastLine
      let value ← expression fuel
      expect .closeExpr
      let (rest, last) ← statements ends fuel
      return (.emit value line :: rest, last)
    | some .openTag =>
      match ← peek with
      | some (.ident word) =>
        if word ∈ ends then
          let _ ← take
          return ([], word)
      | _ => pure ()
      let first ← nested (statement fuel)
      expect .closeTag
      let (rest, last) ← statements ends fuel
      return (first :: rest, last)
    | _ => fail

/-- The statements between the end of a tag and a tag with one of the words. -/
def body (ends : List String) : (fuel : Nat) → Parser (List Statement × String)
  | 0 => fail
  | fuel + 1 => do
    expect .closeTag
    statements ends fuel

/-- A statement, from its word on. -/
def statement : (fuel : Nat) → Parser Statement
  | 0 => fail
  | fuel + 1 => do
    let word ← expectName
    let line ← lastLine
    match word with
    | "for" =>
      let t ← target false fuel
      expect (.ident "in")
      let items ← disjunction fuel
      let condition ← if ← skip (.ident "if") then do
          let line ← nextLine
          pure (some (← expression fuel, line))
        else pure none
      let recursive ← skip (.ident "recursive")
      let (inside, last) ← body ["endfor", "else"] fuel
      let otherwise ← if last = "else" then do pure (← body ["endfor"] fuel).1 else pure []
      return .forLoop t items condition recursive inside otherwise line
    | "if" => branches fuel line
    | "with" =>
      let assignments ← if ← isNext [.closeTag] then pure [] else assignments fuel
      let (inside, _) ← body ["endwith"] fuel
      return .scope assignments inside line
    | "set" =>
      let t ← target true fuel
      if ← isNext [.closeTag, symbol "|"] then
        let filter ←
          if ← skip (symbol "|") then do pure (some (← filterChain fuel none)) else pure none
        let (inside, _) ← body ["endset"] fuel
        return .capture t filter inside line
      expect (symbol "=")
      return .assign t (← expressions fuel) line
    | "autoescape" =>
      let mode ← expression fuel
      let (inside, _) ← body ["endautoescape"] fuel
      return .escaping mode inside line
    | "filter" =>
      let filter ← filterChain fuel none
      let (inside, _) ← body ["endfilter"] fuel
      return .filtered filter inside line
    | "block" =>
      if (← get).inProcedure then fail
      let name ← expectName
      if ((← get).blocks.lookup name).isSome then fail
      modify fun s => { s with blocks := s.blocks ++ [(name, [])] }
      let _ ← skip (.ident "scoped")
      let required ← skip (.ident "required")
      let (inside, _) ← body ["endblock"] fuel
      if required && !inside.all isBlankText then fail
      match ← peek with
      | some (.ident again) =>
        if again ≠ name then fail
        let _ ← take
      | _ => pure ()
      modify fun s => { s with
        blocks := s.blocks.map fun b => if b.1 = name then (name, inside) else b }
      return .block name required line
    | "extends" => return .inherit (← expression fuel) line
    | "include" =>
      let template ← expression fuel
      let clause ← contextClause
      let mayBeMissing ← skip (.ident "ignore")
      if mayBeMissing then
        expect (.ident "missing")
        if !clause then
          let _ ← contextClause
      return .insert template mayBeMissing line
    | "import" =>
      let template ← expression fuel
      expect (.ident "as")
      match asTarget (← expression fuel) with
      | none => fail
      | some t =>
        let _ ← contextClause
        return .importAll template t line
    | "from" =>
      let template ← expression fuel
      expect (.ident "import")
      let names ← importedNames fuel
      let _ ← contextClause
      return .importNames template names line
    | "macro" =>
      let name ← expectName
      expect (symbol "(")
      let parameters ← parameters false fuel
      return .define name parameters (← procedureBody "endmacro" fuel) line
    | "do" =>
      match ← expression fuel with
      | .call callee arguments line => return .perform (.call callee arguments line)
      | _ => fail
    | "call" =>
      let parameters ← if ← skip (symbol "(") then parameters false fuel else pure []
      match ← expression fuel with
      | .call callee arguments callLine =>
        let inside ← procedureBody "endcall" fuel
        return .callWith callee arguments parameters inside callLine line
      | _ => fail
    | _ => fail

/-- The statements of a procedure, in which there are no blocks. -/
def procedureBody (last : String) : (fuel : Nat) → Parser (List Statement)
  | 0 => fail
  | fuel + 1 => do
    let outer := (← get).inProcedure
    modify fun s => { s with inProcedure := true }
    let (inside, _) ← body [last] fuel
    modify fun s => { s with inProcedure := outer }
    return inside

/-- The condition of a branch and what follows it. -/
def branches : (fuel : Nat) → (line : Nat) → Parser Statement
  | 0, _ => fail
  | fuel + 1, line => do
    let condition ← disjunction fuel
    let (yes, last) ← body ["endif", "else", "elif"] fuel
    match last with
    | "elif" =>
      let next ← lastLine
      return .branch condition yes [← branches fuel next] line
    | "else" =>
      let (no, _) ← body ["endif"] fuel
      return .branch condition yes no line
    | _ => return .branch condition yes [] line

end

end Parse

namespace Template

/-- Reads a template; a fault is located in it. -/
def parse (name source : String) : Except Fault Template :=
  let (tokens, stop) := Token.scan source
  let fuel := 24 * (tokens.length + 2)
  match (Parse.statements [] fuel).run ⟨tokens, stop, 1, 0, false, []⟩ with
  | .ok (body, _) s => .ok (Template.settleLines ⟨name, body, s.blocks⟩)
  | .error fault _ => .error ((Fault.ofKind fault.kind).located ⟨name, fault.line⟩)

end RenderChain.Jinja.Template
