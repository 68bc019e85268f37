/-
  RenderChain/Files/Path.lean
  ===========================
  **File paths as texts.**

  Template paths come from outside, so they are joined to a root folder
  component by component: empty components and `.` are dropped, and a path with
  a component `..` is refused altogether.  `below` is that rule; what it returns
  is the root followed by the components that were kept, in their order.
-/
import RenderChain.Text.Split

namespace RenderChain.Path

/-- `name` as an entry of the folder `folder`. -/
def push (folder name : String) : String :=
  if folder.isEmpty || folder.toList.getLast? = some '/' then folder ++ name
  else folder ++ "/" ++ name

/-- The names one below the other, starting at `folder`. -/
def pushAll (folder : String) (names : List String) : String := names.foldl push folder

/-- The components that name something: neither empty nor `.`. -/
def components (path : String) : List String :=
  (Text.split '/' path).filter fun c => c ≠ "" && c ≠ "."

/-- The template path `path` below `root`, unless it could leave it. -/
def below (root path : String) : Option String :=
  if ".." ∈ components path then none else some (pushAll root (components path))

def isAbsolute (path : String) : Bool := path.toList.head? = some '/'

/-- The folders above `path`, the nearest one first.  The last one is the empty
    path, or `/` for an absolute path. -/
def ancestors (path : String) : List String :=
  let names := components path
  let names := if (Text.split '/' path).head? = some "." then "." :: names else names
  let top := if isAbsolute path then "/" else ""
  (List.range names.length).reverse.map fun n => pushAll top (names.take n)

theorem below_eq_none_iff {root path : String} :
    below root path = none ↔ ".." ∈ components path := by
  unfold below; split <;> simp_all

theorem below_eq_some_iff {root path full : String} :
    below root path = some full ↔
      ".." ∉ components path ∧ full = pushAll root (components path) := by
  unfold below; split <;> simp_all [eq_comm]

end RenderChain.Path
