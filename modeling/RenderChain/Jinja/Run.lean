/-
  RenderChain/Jinja/Run.lean
  ==========================
  **The state of a rendering**: scopes of names, blocks, procedures, and the
  sources that were read.

  Names are looked up from the innermost frame outwards, then among the globals
  of the environment.  A procedure sees, besides the variables of the template,
  the names that it uses as they were where it was defined: they are kept in a
  capture of the defining frame, which also follows all later assignments in
  that frame.  A frame has a capture as soon as a procedure that uses such names
  is defined in it, and later procedures of the frame see all of it.
-/
import RenderChain.Jinja.Template.Names
import RenderChain.Jinja.Test

namespace RenderChain.Jinja

/-- What all templates of a renderer share. -/
structure Environment where
  /-- Whether what is printed is escaped. -/
  escapes : Bool
  globals : Keyed Value
  functions : List (String × Function)
  filters : List (String × Filter)
  tests : List (String × Test)

/-- The source of a template by its name, if there is one. -/
abbrev SourceOf := String → Except Fault (Option String)

/-! ## Frames -/

/-- The names that a frame has besides those assigned in it. -/
inductive Base
  | nothing
  | given (values : Keyed Value)
  | captured (number : Nat)

/-- What a loop does with each item, and its line. -/
structure Repetition where
  target : Target
  body : List Statement
  /-- Whether there is an alternative for when there are no items. -/
  hasAlternative : Bool
  line : Nat

/-- A loop that is running. -/
structure Loop where
  state : LoopState
  previous : Value
  next : Value
  /-- Whether `loop` names it; while items are selected, nothing does. -/
  named : Bool
  repetition : Option Repetition

structure Frame where
  locals : Keyed Value
  loop : Option Loop
  /-- The capture that follows the assignments in this frame. -/
  capture : Option Nat
  base : Base

def Frame.empty : Frame := ⟨[], none, none, .nothing⟩

def Frame.ofBase (base : Base) : Frame := ⟨[], none, none, base⟩

/-- What a template defines to be called by name. -/
structure Procedure where
  name : String
  parameters : List (String × Option Expr)
  body : List Statement
  /-- Whether the body uses the name `caller`. -/
  wantsCaller : Bool
  capture : Option Nat
  /-- The template that defines it. -/
  template : String

/-- The bodies of a block, the one that is shown first, and how many `super`
    calls are under way. -/
structure Layers where
  bodies : List (String × List Statement)
  depth : Nat

/-- What is known of a loop, even when it is over. -/
structure LoopRecord where
  /-- What a recursive loop repeats. -/
  repetition : Option Repetition
  /-- The values about which `changed` was asked last. -/
  asked : Option (List Value)

structure Run where
  frames : List Frame
  blocks : List (String × Layers)
  /-- The templates that have been extended. -/
  extended : List String
  /-- The template that the running one extends. -/
  parent : Option Template
  procedures : Array Procedure
  loops : Array LoopRecord
  /-- How many lists and maps have been made. -/
  made : Nat
  /-- What recursive loops have left below the value that is being computed. -/
  strays : List Value
  captures : Array (Keyed Value)
  sources : List (String × String)

/-- A step of a rendering. -/
abbrev Eval (α : Type) := EStateM Fault Run α

namespace Run

/-- The value of a name in a frame, apart from the frames around it. -/
def lookupInFrame (r : Run) (name : String) (f : Frame) : Option Value :=
  let ofLoop := match f.loop with
    | some loop =>
      if loop.named ∧ name = "loop" then some (.loop loop.state loop.previous loop.next) else none
    | none => none
  let ofBase := match f.base with
    | .nothing => none
    | .given values => Keyed.find? name values
    | .captured number => (r.captures[number]?).bind (Keyed.find? name)
  ((Keyed.find? name f.locals).or ofLoop).or ofBase

/-- A value in some frame, or a global of the environment. -/
def lookup (r : Run) (globals : Keyed Value) (name : String) : Option Value :=
  (r.frames.findSome? (r.lookupInFrame name)).or (Keyed.find? name globals)

/-- Changes the innermost frame. -/
def modifyFrame (r : Run) (change : Frame → Frame) : Run :=
  match r.frames with
  | [] => r
  | f :: rest => { r with frames := change f :: rest }

/-- Assigns a name in the innermost frame, and in its capture. -/
def store (r : Run) (name : String) (v : Value) : Run :=
  match r.frames with
  | [] => r
  | f :: rest =>
    { r with
      frames := { f with locals := Keyed.put name v f.locals } :: rest
      captures := match f.capture with
        | none => r.captures
        | some number => r.captures.modify number (Keyed.put name v) }

/-- The number of the capture of the innermost frame, which has one from now on. -/
def withCapture (r : Run) : Nat × Run :=
  match r.frames.head?.bind (·.capture) with
  | some number => (number, r)
  | none =>
    let number := r.captures.size
    (number, { r.modifyFrame fun f => { f with capture := some number } with
      captures := r.captures.push [] })

/-- Keeps the values of names in a capture, unless it has them; a name without
    a value is kept as missing. -/
def enclose (r : Run) (globals : Keyed Value) (number : Nat) (names : List String) : Run :=
  let keep (kept : Keyed Value) (name : String) : Keyed Value :=
    if (Keyed.find? name kept).isSome then kept
    else Keyed.put name ((r.lookup globals name).getD .undefined) kept
  { r with captures := r.captures.modify number fun kept => names.foldl keep kept }

/-- The innermost loop. -/
def loop? (r : Run) : Option Loop := r.frames.findSome? (·.loop)

/-- The variables with which the template was called. -/
def base (r : Run) : Base := (r.frames.getLast?.map (·.base)).getD .nothing

/-- The blocks of a template that nothing extends. -/
def blocksOf (t : Template) : List (String × Layers) :=
  t.blocks.map fun b => (b.1, ⟨[(t.name, b.2)], 0⟩)

/-- Adds the blocks of an extended template behind those of the extending ones. -/
def addBlocks (r : Run) (t : Template) : Run :=
  let add (blocks : List (String × Layers)) (b : String × List Statement) :
      List (String × Layers) :=
    if (blocks.lookup b.1).isSome then
      blocks.map fun entry =>
        if entry.1 = b.1 then
          (b.1, { entry.2 with bodies := entry.2.bodies ++ [(t.name, b.2)] })
        else entry
    else blocks ++ [(b.1, ⟨[(t.name, b.2)], 0⟩)]
  { r with blocks := t.blocks.foldl add r.blocks }

/-- Sets how many `super` calls of a block are under way. -/
def setDepth (r : Run) (block : String) (depth : Nat) : Run :=
  { r with
    blocks := r.blocks.map fun b => if b.1 = block then (b.1, { b.2 with depth := depth }) else b }

end Run

end RenderChain.Jinja
