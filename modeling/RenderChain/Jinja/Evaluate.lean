/-
  RenderChain/Jinja/Evaluate.lean
  ===============================
  **Rendering a template.**

  Expressions give values and statements give text.  A template that extends
  another one first runs to its end, printing no more, and then the other one
  runs in the same frame, with the blocks of the first in front of its own.
  An included template runs in the frame of the including one; a procedure runs
  in frames of its own.

  Frames, includes and calls count toward a depth limit, which makes every
  rendering end; the fuel of these functions only has to exceed what the limit
  allows.
-/
import RenderChain.Jinja.Run
import RenderChain.Jinja.Template.Parse

namespace RenderChain.Jinja

/-- What stays the same while a piece of a template runs. -/
structure Scope where
  env : Environment
  sourceOf : SourceOf
  /-- The template that is running. -/
  template : String
  escape : Bool
  /-- What includes and calls add to the number of frames. -/
  depth : Nat
  /-- Whether the text is caught, so that it is kept even after an `extends`. -/
  catching : Bool
  /-- Whether the text is thrown away, so that blocks are not run. -/
  discarding : Bool
  block : Option String
  /-- What a filter without an input is applied to. -/
  piped : Value

/-! ## Limits -/

def depthLimit : Nat := 500

def includeCost : Nat := 10

def callCost : Nat := 4

/-- More than the depth of any rendering within the limits. -/
def evaluationFuel : Nat := 10000000

namespace Scope

variable {α : Type}

/-- Locates a fault in the running template. -/
def at_ (c : Scope) (line : Nat) : Except Fault α → Eval α
  | .ok a => pure a
  | .error fault => throw (fault.located ⟨c.template, line⟩)

def fault (c : Scope) (line : Nat) (f : Fault) : Eval α := c.at_ line (.error f)

/-- The scope with a greater depth, within the limit. -/
def deeper (c : Scope) (line cost : Nat) : Eval Scope := do
  if depthLimit < c.depth + cost + (← get).frames.length then
    c.fault line (.invalid "recursion limit exceeded")
  return { c with depth := c.depth + cost }

/-- Enters a frame. -/
def enter (c : Scope) (line : Nat) (f : Frame) : Eval Unit := do
  modify fun r => { r with frames := f :: r.frames }
  let _ ← c.deeper line 0

/-- The text of a value as it is printed. -/
def printed (c : Scope) (v : Value) : String :=
  if c.escape && !v.isSafe then Text.escapeMarkup v.toText else v.toText

/-- A text that was caught; it counts as escaped if escaping is on. -/
def caught (c : Scope) (s : String) : Value := .string s c.escape

end Scope

def leave : Eval Unit := modify fun r => { r with frames := r.frames.tail }

def lookup (c : Scope) (name : String) : Eval (Option Value) := do
  return (← get).lookup c.env.globals name

/-! ## Templates by name -/

/-- The template of a name, if there is one.  A source is kept once it has been
    read and is a template. -/
def templateOf (c : Scope) (line : Nat) (name : String) : Eval (Option Template) := do
  match (← get).sources.lookup name with
  | some source => return some (← c.at_ line (Template.parse name source))
  | none =>
    match ← c.at_ line (c.sourceOf name) with
    | none => return none
    | some source =>
      let t ← c.at_ line (Template.parse name source)
      modify fun r => { r with sources := (name, source) :: r.sources }
      return some t

/-- What a value gives for the names of templates: a list its items, a map its keys,
    a function nothing, and all else itself. -/
def namesOf (v : Value) : List Value :=
  match v with
  | .function _ => []
  | v => v.items?.getD [v]

def notAString : Fault := .invalid "template name was not a string"

def doesNotExist (name : String) : Fault :=
  .detailed .templateNotFound ("template " ++ Text.quoted name ++ " does not exist")

/-- The fault of an include of which no template exists. -/
def noneExists : List String → Fault
  | [name] =>
    .detailed .templateNotFound ("tried to include non-existing template " ++ Text.quoted name)
  | names =>
    .detailed .templateNotFound
      ("tried to include one of multiple templates, none of which existed [" ++
        ", ".intercalate (names.map Text.quoted) ++ "]")

/-! ## Calls -/

/-- The fault of a call of a value that is neither a procedure nor a function. -/
def notCallable (v : Value) : Fault :=
  match v with
  | .list .. | .copies .. | .map .. => .invalid "object is not callable"
  | .loop .. => .invalid "loop recursion cannot be called this way"
  | v => .invalid ("value of type " ++ v.kind.name ++ " is not callable")

/-- The arguments without a name, and those with one. -/
def splitArguments (arguments : List Value) : List Value × List (Value × Value) :=
  match arguments.getLast? with
  | some (.map entries .arguments _) => (arguments.dropLast, entries)
  | _ => (arguments, [])

/-- The values of the parameters, missing ones left out, and the value of `caller`. -/
def bindParameters (p : Procedure) (arguments : List Value) :
    Except Fault (List Value × Value) := do
  let (positional, named) := splitArguments arguments
  let names := p.parameters.map Prod.fst
  if names.length < positional.length then throw tooMany
  let values ← names.zipIdx.mapM fun (name, i) =>
    match positional[i]?, findEntry (.text name) named with
    | some _, some _ =>
      .error (.detailed .tooManyArguments ("duplicate argument \x60" ++ name ++ "\x60"))
    | some v, none => .ok v
    | none, some v => .ok v
    | none, none => .ok .undefined
  let used := if p.wantsCaller then "caller" :: names else names
  let unknown := named.findSome? fun entry =>
    match entry.1 with
    | .string name _ => if name ∈ used then none else some name
    | _ => none
  match unknown with
  | some name =>
    throw (.detailed .tooManyArguments ("unknown keyword argument \x60" ++ name ++ "\x60"))
  | none => return (values, (findEntry (.text "caller") named).getD .undefined)

/-- Whether escaping is on in a mode. -/
def escapeMode (v : Value) : Except Fault Bool :=
  match v with
  | .string "html" _ => .ok true
  | .string "none" _ => .ok false
  | .string .. => .error (.invalid "invalid value to autoescape tag")
  | v => .ok (equal v (.bool true))

/-- Each item with the ones before and after it. -/
def withNeighbors (items : List Value) : List (Value × Value × Value) :=
  items.zip ((.undefined :: items).zip (items.drop 1 ++ [.undefined]))

/-- The arguments that values make in a call; those with a name become one map. -/
def passed (values : List (Passing × Value)) : Except Fault (List Value) := do
  let named ← values.mapM fun (passing, v) =>
    match passing with
    | .named name => .ok [(.text name, v)]
    | .entries => do
      match (← present v).entries? with
      | some entries => .ok entries
      | none =>
        .error (.invalid ("attempted to apply keyword arguments from non map (got " ++
          v.kind.name ++ ")"))
    | _ => .ok []
  let positional ← values.mapM fun (passing, v) =>
    match passing with
    | .inOrder => .ok [v]
    | .items => if v.isUndefined then .ok [] else iterate v
    | _ => .ok []
  return if values.all (·.1.isPositional) then positional.flatten
    else positional.flatten ++ [mapOf named.flatten .arguments]

/-- A procedure with the values that the names it uses have here. -/
def procedureHere (c : Scope) (name : String) (parameters : List (String × Option Expr))
    (body : List Statement) : Eval Value :=
  modifyGet fun r =>
    let names := procedureNames parameters body
    let wantsCaller := "caller" ∈ names
    let kept := names.filter (· ≠ "caller")
    let (capture, r) :=
      if kept.isEmpty then (r.frames.head?.bind (·.capture), r)
      else
        let (number, r) := r.withCapture
        (some number, r.enclose c.env.globals number kept)
    let p : Procedure := ⟨name, parameters, body, wantsCaller, capture, c.template⟩
    (.procedure name (parameters.map Prod.fst) wantsCaller r.procedures.size,
      { r with procedures := r.procedures.push p })

/-- The fault of a call of a method that a value does not have. -/
def unknownMethod (v : Value) (name : String) : Fault :=
  .detailed .unknownMethod (v.kind.name ++ " has no method named " ++ name)

/-- Whether the arguments differ from those at the last call for this loop. -/
def hasChanged (loop : LoopState) (arguments : List Value) : Eval Value :=
  modifyGet fun r =>
    let last := (r.loops[loop.number]?).bind (·.asked)
    (.bool !(last.any fun values => equal (.sequence values) (.sequence arguments)),
      { r with loops := r.loops.modify loop.number fun l => { l with asked := some arguments } })

/-- The value, told apart from all others if it is a list or map that was made just now. -/
def distinct (v : Value) : Eval Value :=
  modifyGet fun r => (v.identified (.made r.made), { r with made := r.made + 1 })

/-- A step of its own: what it leaves below its value is dropped. -/
def apart {α : Type} (step : Eval α) : Eval α := do
  let outer := (← get).strays
  modify fun r => { r with strays := [] }
  let a ← step
  modify fun r => { r with strays := outer }
  return a

/-- Neighbours as pairs. -/
def pairs : List Value → List (Value × Value)
  | k :: v :: rest => (k, v) :: pairs rest
  | _ => []

/-- Whether what a statement prints is dropped: a parent template is going to print. -/
def isDropping (c : Scope) : Eval Bool := do return !c.catching && (← get).parent.isSome

/-! ## Evaluation -/

/-- The fault of a function that has run out of fuel. -/
def exhausted : Fault := .invalid "recursion limit exceeded"

mutual

def eval : (fuel : Nat) → Scope → Expr → Eval Value
  | 0, _, _ => throw exhausted
  | fuel + 1, c, e => do
    match e with
    | .variable name _ => return (← lookup c name).getD .undefined
    | .literal v _ => return v
    | .list items _ => distinct (.sequence (← evalAll fuel c items))
    | .map entries _ =>
      distinct (mapOf (pairs (← evalAll fuel c (entries.flatMap fun e => [e.1, e.2]))) .plain)
    | .negate e line => c.at_ line (negate (← eval fuel c e))
    | .not_ e line => return .bool !(← c.at_ line (truth (← eval fuel c e)))
    | .binary op l r line =>
      let (a, b) ← evalBoth fuel c l r
      distinct (← c.at_ line (op.apply a b))
    | .chain .. => return .bool (← evalComparison fuel c e).1
    | .and_ l r line =>
      let a ← eval fuel c l
      if ← c.at_ line (truth a) then eval fuel c r else return a
    | .or_ l r line =>
      let a ← eval fuel c l
      if ← c.at_ line (truth a) then return a else eval fuel c r
    | .choose condition yes no line =>
      if ← c.at_ line (truth (← eval fuel c condition)) then eval fuel c yes
      else
        match no with
        | some no => eval fuel c no
        | none => return .nothing
    | .attribute e name line => c.at_ line (attributeOf (← eval fuel c e) name)
    | .item e key line =>
      let (v, key) ← evalBoth fuel c e key
      c.at_ line (itemOf v key)
    | .slice e start stop step line =>
      let bound (e : Option Expr) : Expr := e.getD (.literal .none line)
      match ← evalAll fuel c [e, bound start, bound stop, bound step] with
      | [v, start, stop, step] => distinct (← c.at_ line (sliceOf v start stop step))
      | _ => throw exhausted
    | .call callee arguments line => evalCall fuel c callee arguments line
    | .filter name input arguments line =>
      let arguments ← evalArguments fuel c (input.getD (.literal c.piped line)) arguments line
      match c.env.filters.lookup name with
      | none => c.fault line (.detailed .unknownFilter ("filter " ++ name ++ " is unknown"))
      | some f => distinct (← c.at_ line (f c.escape arguments))
    | .test name input arguments line =>
      let arguments ← evalArguments fuel c input arguments line
      match c.env.tests.lookup name with
      | none => c.fault line (.detailed .unknownTest ("test " ++ name ++ " is unknown"))
      | some t => return .bool (← c.at_ line (t arguments))

/-- Whether a comparison holds, and its last operand; a chain stops at the first
    link that does not hold. -/
def evalComparison : (fuel : Nat) → Scope → Expr → Eval (Bool × Value)
  | 0, _, _ => throw exhausted
  | fuel + 1, c, e => do
    match e with
    | .binary op l r line =>
      let a ← eval fuel c l
      let b ← eval fuel c r
      return ((← c.at_ line (op.apply a b)).isTrue, b)
    | .chain op l r line =>
      let (holds, a) ← evalComparison fuel c l
      if !holds then return (false, .undefined)
      let b ← eval fuel c r
      return ((← c.at_ line (op.apply a b)).isTrue, b)
    | e =>
      let v ← eval fuel c e
      return (v.isTrue, v)

/-- The values of expressions that wait for each other.  A call of a loop that has
    an alternative leaves something below its value, which then takes the place
    of the operand before it. -/
def evalAll : (fuel : Nat) → Scope → List Expr → Eval (List Value)
  | 0, _, _ => throw exhausted
  | fuel + 1, c, es => do
    let outer := (← get).strays
    let values ← es.mapM fun e => do
      modify fun r => { r with strays := [] }
      let v ← eval fuel c e
      return (← get).strays ++ [v]
    let values := values.flatten
    let extra := values.length - es.length
    modify fun r => { r with strays := outer ++ values.take extra }
    return values.drop extra

def evalBoth : (fuel : Nat) → Scope → Expr → Expr → Eval (Value × Value)
  | 0, _, _, _ => throw exhausted
  | fuel + 1, c, l, r => do
    match ← evalAll fuel c [l, r] with
    | [a, b] => return (a, b)
    | _ => throw exhausted

/-- The values of arguments behind the value that gets them. -/
def evalArguments : (fuel : Nat) → Scope → Expr → List (Passing × Expr) → (line : Nat) →
    Eval (List Value)
  | 0, _, _, _, _ => throw exhausted
  | fuel + 1, c, e, arguments, line => do
    let passings := .inOrder :: arguments.map Prod.fst
    c.at_ line (passed (passings.zip (← evalAll fuel c (e :: arguments.map Prod.snd))))

/-- A call of a function by its name, of a block, of a method or of another value. -/
def evalCall : (fuel : Nat) → Scope → Expr → List (Passing × Expr) → (line : Nat) →
    Eval Value
  | 0, _, _, _, _ => throw exhausted
  | fuel + 1, c, callee, arguments, line => do
    match callee with
    | .variable name _ =>
      let values ← evalAll fuel c (arguments.map Prod.snd)
      let values ← c.at_ line (passed ((arguments.map Prod.fst).zip values))
      if name = "super" then
        if !values.isEmpty then c.fault line (.invalid "super() takes no arguments")
        return c.caught (← superBlock fuel c line)
      match ← lookup c name, values with
      | some (.loop loop _ _), [v] =>
        let repetition := ((← get).loops[loop.number]?).bind (·.repetition)
        let inner := { c with catching := true, discarding := false }
        return c.caught (← recurse fuel inner repetition v line)
      | some (.loop ..), _ => c.fault line (.invalid "loop() takes one argument")
      | some f, values => callValue fuel c f values line
      | none, _ => c.fault line (.detailed .unknownFunction (name ++ " is unknown"))
    | .attribute (.variable "self" _) name _ =>
      return c.caught
        (← showBlock fuel { c with catching := true, discarding := false } name false line)
    | .attribute e name _ =>
      match ← evalArguments fuel c e arguments line with
      | v :: values => callMethod fuel c v name values line
      | [] => throw exhausted
    | e =>
      match ← evalArguments fuel c e arguments line with
      | f :: values => callValue fuel c f values line
      | [] => throw exhausted

/-- A call of a method, which is what a map has under the name. -/
def callMethod : (fuel : Nat) → Scope → Value → String → List Value → (line : Nat) → Eval Value
  | 0, _, _, _, _, _ => throw exhausted
  | fuel + 1, c, v, name, values, line => do
    match v, name, field? v (.text name) with
    | .loop loop _ _, "changed", _ => hasChanged loop values
    | .loop loop _ _, "cycle", _ =>
      return (values[loop.index0 % values.length]?).getD .undefined
    | _, _, none => c.fault line (unknownMethod v name)
    | _, _, some f => callValue fuel c f values line

def callValue : (fuel : Nat) → Scope → Value → List Value → (line : Nat) → Eval Value
  | 0, _, _, _, _ => throw exhausted
  | fuel + 1, c, f, arguments, line => do
    match f with
    | .function name =>
      match c.env.functions.lookup name with
      | some g => distinct (← c.at_ line (g arguments))
      | none => c.fault line (notCallable f)
    | .procedure _ _ _ number =>
      match (← get).procedures[number]? with
      | some p => callProcedure fuel c p arguments line
      | none => c.fault line (notCallable f)
    | f => c.fault line (notCallable f)

/-- Runs a procedure in frames of its own; its value is what it prints. -/
def callProcedure : (fuel : Nat) → Scope → Procedure → List Value → (line : Nat) → Eval Value
  | 0, _, _, _, _ => throw exhausted
  | fuel + 1, c, p, arguments, line => do
    let (values, caller) ← c.at_ line (bindParameters p arguments)
    let before ← get
    let own := if p.wantsCaller then [("caller", caller)] else []
    let inside := (p.capture.map Base.captured).getD .nothing
    set { before with
      frames := [{ Frame.ofBase inside with locals := own }, Frame.ofBase before.base]
      blocks := []
      extended := []
      parent := none }
    let inner ← c.deeper line (before.frames.length + callCost)
    let inner := { inner with
      template := p.template, catching := false, discarding := false, block := none }
    (p.parameters.zip values).reverse.forM fun (parameter, v) => do
      let v ← match parameter.2 with
        | some default => if v.isUndefined then eval fuel inner default else pure v
        | none => pure v
      modify (·.store parameter.1 v)
    let text ← apart (exec fuel inner p.body)
    modify fun r => { r with
      frames := before.frames
      blocks := before.blocks
      extended := before.extended
      parent := before.parent }
    return c.caught text

/-- Assigns a value to a target. -/
def assign : (fuel : Nat) → Scope → Target → Value → Eval Unit
  | 0, _, _, _ => throw exhausted
  | fuel + 1, c, t, v => do
    match t with
    | .name name => modify (·.store name v)
    | .unpack targets line =>
      match v.items? with
      | none => c.fault line (.detailed .cannotUnpack "value is not iterable")
      | some items =>
        if items.length ≠ targets.length then
          c.fault line (.detailed .cannotUnpack
            ("sequence of wrong length (expected " ++ toString targets.length ++ ", got " ++
              toString items.length ++ ")"))
        (targets.zip items).forM fun p => assign fuel c p.1 p.2
    | .attribute parent _ line =>
      let v ← eval fuel c parent
      c.fault line (.invalid ("can only assign to namespaces, not " ++ v.kind.name))

/-- Runs statements one after the other. -/
def exec : (fuel : Nat) → Scope → List Statement → Eval String
  | 0, _, _ => throw exhausted
  | fuel + 1, c, statements =>
    statements.foldlM
      (fun text s => do
        let dropped ← isDropping c
        let more ← execOne fuel c s
        return if dropped then text else text ++ more)
      ""

/-- What statements print, as a value.  If the template comes to extend another one
    by them, it is lost. -/
def catchText : (fuel : Nat) → Scope → List Statement → Eval Value
  | 0, _, _ => throw exhausted
  | fuel + 1, c, statements => do
    let before := (← get).parent
    let text ← exec fuel { c with catching := true, discarding := false } statements
    return if before.isNone && (← get).parent.isSome then .undefined else c.caught text

/-- Runs the body of a template or block, and then the template it extends. -/
def runBody : (fuel : Nat) → Scope → List Statement → Eval String
  | 0, _, _ => throw exhausted
  | fuel + 1, c, body => do
    let text ← exec fuel c body
    match (← get).parent with
    | none => return text
    | some t =>
      modify fun r => { r with parent := none }
      return text ++ (← runBody fuel { c with template := t.name } t.body)

/-- Runs a loop over items, in a frame whose names each item has for itself. -/
def runLoop : (fuel : Nat) → Scope → Repetition → (recursive : Bool) → List Value → Eval String
  | 0, _, _, _, _ => throw exhausted
  | fuel + 1, c, repetition, recursive, items => do
    let depth0 := match (← get).loop? with
      | some loop => if loop.repetition.isSome then loop.state.depth0 + 1 else 0
      | none => 0
    let number := (← get).loops.size
    let repeated := if recursive then some repetition else none
    modify fun r => { r with loops := r.loops.push ⟨repeated, none⟩ }
    let start : Loop := {
      state := ⟨number, 0, items.length, depth0⟩
      previous := .undefined
      next := .undefined
      named := true
      repetition := repeated }
    c.enter repetition.line { Frame.empty with loop := some start }
    let text ← (withNeighbors items).zipIdx.foldlM
      (fun text ((v, previous, next), i) => do
        modify (·.modifyFrame fun f => { Frame.empty with
          loop := f.loop.map fun loop => { loop with
            state := { loop.state with index0 := i }
            previous := previous
            next := next } })
        assign fuel c repetition.target v
        return text ++ (← exec fuel c repetition.body))
      ""
    leave
    return text

/-- Runs a loop once more, over other items, if it is recursive.  If it has an
    alternative, whether there were no items is left below what it prints. -/
def recurse : (fuel : Nat) → Scope → Option Repetition → Value → (line : Nat) → Eval String
  | 0, _, _, _, _ => throw exhausted
  | _ + 1, c, none, _, line => c.fault line (.invalid "cannot recurse outside of recursive loop")
  | fuel + 1, c, some repetition, v, _ => do
    match iterate v with
    | .error _ =>
      c.fault repetition.line (.invalid "cannot recurse because of non-iterable value")
    | .ok items =>
      let text ← runLoop fuel c repetition true items
      if repetition.hasAlternative then
        modify fun r => { r with strays := r.strays ++ [.bool items.isEmpty] }
      return text

/-- The items for which a condition holds. -/
def select : (fuel : Nat) → Scope → Target → Expr → List Value → (line conditionLine : Nat) →
    Eval (List Value)
  | 0, _, _, _, _, _, _ => throw exhausted
  | fuel + 1, c, target, condition, items, line, conditionLine => do
    let loop : Loop := ⟨⟨0, 0, items.length, 0⟩, .undefined, .undefined, false, none⟩
    c.enter line { Frame.empty with loop := some loop }
    let kept ← items.filterM fun v => do
      modify (·.modifyFrame fun f => { f with locals := [] })
      assign fuel c target v
      c.at_ conditionLine (truth (← eval fuel c condition))
    leave
    return kept

/-- Prints a block, unless a parent template is going to do that.  A required one
    must have a body besides the one where it is required. -/
def showBlock : (fuel : Nat) → Scope → String → (required : Bool) → (line : Nat) → Eval String
  | 0, _, _, _, _ => throw exhausted
  | fuel + 1, c, name, required, line => do
    if c.discarding || (← get).parent.isSome then return ""
    match (← get).blocks.lookup name with
    | none => c.fault line (.detailed .unknownBlock ("block '" ++ name ++ "' not found"))
    | some layers =>
      if required && layers.bodies.length ≤ 1 then
        c.fault line (.invalid ("Required block '" ++ name ++ "' not found"))
      showLayer fuel { c with block := some name } layers line

/-- Prints the body of a block that its depth selects. -/
def showLayer : (fuel : Nat) → Scope → Layers → (line : Nat) → Eval String
  | 0, _, _, _ => throw exhausted
  | fuel + 1, c, layers, line => do
    match layers.bodies[layers.depth]? with
    | none => c.fault line (.invalid "no parent block exists")
    | some (template, body) =>
      let parent := (← get).parent
      modify fun r => { r with parent := none }
      c.enter line .empty
      let text ← apart (runBody fuel { c with template := template, catching := false } body)
      leave
      modify fun r => { r with parent := parent }
      return text

/-- Prints the block that the running one replaces. -/
def superBlock : (fuel : Nat) → Scope → (line : Nat) → Eval String
  | 0, _, _ => throw exhausted
  | fuel + 1, c, line => do
    let blocks := (← get).blocks
    match c.block.bind fun name => (blocks.lookup name).map fun layers => (name, layers) with
    | none => c.fault line (.invalid "cannot super outside of block")
    | some (name, layers) =>
      let deeper := { layers with depth := layers.depth + 1 }
      if deeper.bodies.length ≤ deeper.depth then
        c.fault line (.invalid "no parent block exists")
      modify (·.setDepth name deeper.depth)
      let text ← tryCatch (showLayer fuel c deeper line) fun _ =>
        c.fault line (.detailed .badBlock "error in super block")
      modify (·.setDepth name layers.depth)
      return text

/-- Runs a template in the frame of the running one. -/
def runIncluded : (fuel : Nat) → Scope → Template → (line : Nat) → Eval String
  | 0, _, _, _ => throw exhausted
  | fuel + 1, c, t, line => do
    let inner ← c.deeper line includeCost
    let inner := { inner with
      template := t.name
      escape := c.env.escapes
      catching := false
      discarding := c.discarding || (← isDropping c) }
    let before ← get
    let capture := before.frames.head?.bind (·.capture)
    set { before.modifyFrame fun f => { f with capture := none } with
      blocks := Run.blocksOf t
      parent := none }
    let text ← tryCatch (apart (runBody fuel inner t.body)) fun _ =>
      c.fault line (.detailed .badInclude ("error in " ++ "\"" ++ t.name ++ "\""))
    modify fun r => { r.modifyFrame fun f => { f with capture := capture } with
      blocks := before.blocks, parent := before.parent, extended := before.extended }
    return text

/-- Includes the first of the named templates that exists. -/
def includeFirst : (fuel : Nat) → Scope → List Value → (missing : Fault ⊕ Bool) →
    (tried : List String) → (line : Nat) → Eval String
  | 0, _, _, _, _, _ => throw exhausted
  | _ + 1, c, [], missing, tried, line =>
    match missing with
    | .inl f => c.fault line f
    | .inr mayBeMissing =>
      if mayBeMissing || tried.isEmpty then return "" else c.fault line (noneExists tried.reverse)
  | fuel + 1, c, v :: rest, missing, tried, line => do
    match v with
    | .string name _ =>
      match ← templateOf c line name with
      | some t => runIncluded fuel c t line
      | none => includeFirst fuel c rest missing (name :: tried) line
    | _ => c.fault line notAString

/-- Runs a template for the names it defines; returns its text and what `read`
    finds in its frame. -/
def importFrom : (fuel : Nat) → Scope → Expr → (line : Nat) → (read : Eval (List Value)) →
    Eval (String × List Value)
  | 0, _, _, _, _ => throw exhausted
  | fuel + 1, c, e, line, read => do
    c.enter line .empty
    let v ← eval fuel c e
    let text ← match v with
      | .string name _ => includeFirst fuel c [v] (.inl (doesNotExist name)) [] line
      | v => includeFirst fuel c (namesOf v) (.inr false) [] line
    let found ← read
    leave
    return (text, found)

def execOne : (fuel : Nat) → Scope → Statement → Eval String
  | 0, _, _ => throw exhausted
  | fuel + 1, c, s => do
    match s with
    | .data text _ => return text
    | .emit (.call (.variable "super" _) [] line) _ => superBlock fuel c line
    | .emit (.call (.variable "loop" _) [(passing, e)] line) _ =>
      let values ← c.at_ line (passed ((← evalAll fuel c [e]).map ((passing, ·))))
      match (← get).loop? with
      | none => c.fault line (.detailed .unknownFunction "loop is unknown")
      | some loop =>
        let v := if passing = .items then .count values.length else values.head?.getD .undefined
        recurse fuel c loop.repetition v line
    | .emit (.call (.attribute (.variable "self" _) name _) _ line) _ =>
      showBlock fuel c name false line
    | .emit e line =>
      match ← eval fuel c e with
      | .undefined => c.fault line (.ofKind .undefinedValue)
      | v => return c.printed v
    | .forLoop target items condition recursive body otherwise line =>
      let all ← c.at_ line (iterate (← eval fuel c items))
      let kept ← match condition with
        | none => pure all
        | some (condition, conditionLine) =>
          select fuel c target condition all line conditionLine
      let line := (condition.map Prod.snd).getD line
      let text ← runLoop fuel c ⟨target, body, !otherwise.isEmpty, line⟩ recursive kept
      if kept.isEmpty then exec fuel c otherwise else return text
    | .branch condition yes no line =>
      if ← c.at_ line (truth (← eval fuel c condition)) then exec fuel c yes
      else exec fuel c no
    | .scope assignments body line =>
      c.enter line .empty
      assignments.forM fun (t, e) => do assign fuel c t (← eval fuel c e)
      let text ← exec fuel c body
      leave
      return text
    | .assign target e _ =>
      assign fuel c target (← eval fuel c e)
      return ""
    | .capture target filter body _ =>
      let caught ← catchText fuel c body
      let v ← match filter with
        | none => pure caught
        | some filter => eval fuel { c with piped := caught } filter
      assign fuel c target v
      return ""
    | .escaping mode body line =>
      let escape ← c.at_ line (escapeMode (← eval fuel c mode))
      exec fuel { c with escape := escape } body
    | .filtered filter body line =>
      match ← eval fuel { c with piped := ← catchText fuel c body } filter with
      | .undefined => c.fault line (.ofKind .undefinedValue)
      | v => return c.printed v
    | .block name required line => showBlock fuel c name required line
    | .inherit e line =>
      let v ← eval fuel c e
      let r ← get
      if r.parent.isSome then c.fault line (.invalid "tried to extend a second time in a template")
      match v with
      | .string name _ =>
        if name ∈ r.extended then
          c.fault line (.invalid ("cycle in template inheritance. " ++ Text.quoted name ++
            " was referenced more than once"))
        match ← templateOf c line name with
        | none => c.fault line (doesNotExist name)
        | some t =>
          modify fun r => { r.addBlocks t with parent := some t, extended := name :: r.extended }
          return ""
      | _ => c.fault line notAString
    | .insert e mayBeMissing line =>
      let v ← eval fuel c e
      includeFirst fuel c (namesOf v) (.inr mayBeMissing) [] line
    | .importAll e target line =>
      let read : Eval (List Value) := do
        match (← get).frames with
        | [] => return []
        | f :: _ => return [mapOf (f.locals.map fun p => (.text p.1, p.2)) .plain]
      let inner := { c with catching := true, discarding := false }
      match ← importFrom fuel inner e line read with
      | (text, [.map entries ..]) =>
        assign fuel c target (← distinct (.map entries (.imported text) .unknown))
        return ""
      | _ => return ""
    | .importNames e names line =>
      let read : Eval (List Value) :=
        names.mapM fun p => do return (← lookup c p.1).getD .undefined
      let (_, found) ← importFrom fuel { c with discarding := true } e line read
      (names.zip found).reverse.forM fun (p, v) => modify (·.store p.2 v)
      return ""
    | .define name parameters body _ =>
      let p ← procedureHere c name parameters body
      modify (·.store name p)
      return ""
    | .perform call =>
      let _ ← eval fuel c call
      return ""
    | .callWith callee arguments parameters body line _ =>
      let caller ← procedureHere c "caller" parameters body
      let arguments := arguments ++ [(.named "caller", .literal caller line)]
      match ← evalCall fuel c callee arguments line with
      | .undefined => c.fault line (.ofKind .undefinedValue)
      | v => return c.printed v

end

/-- Renders a template with variables.  The sources that the renderer has kept
    are passed in and out, and those that were read stay even if it fails. -/
def render (env : Environment) (sourceOf : SourceOf) (sources : List (String × String))
    (name source : String) (vars : Keyed Value) :
    Except Fault String × List (String × String) :=
  match Template.parse name source with
  | .error fault => (.error fault, sources)
  | .ok t =>
    let c : Scope := ⟨env, sourceOf, name, env.escapes, 0, false, false, none, .undefined⟩
    let r : Run :=
      ⟨[.ofBase (.given vars)], Run.blocksOf t, [], none, #[], #[], 0, [], #[], sources⟩
    match (runBody evaluationFuel c t.body).run r with
    | .ok text r => (.ok text, r.sources)
    | .error fault r => (.error fault, r.sources)

end RenderChain.Jinja
