/-
  RenderChain/Suffixes.lean
  =========================
  **The suffixes of a path** and the keys they match.

  The last component of a path is cut at its periods: `site/menu.min.css` has
  the base `site/menu` and the segments `min`, `css`.  A period that starts the
  component belongs to the base, so `.profile` has no segments.

  Keys are matched against trailing runs of the segments, the longest run
  first; `chain` does so again and again on what is left, so that it reads
  `page.html.md.gz` from the right.  These three functions carry the whole of
  resolution: loaders, engines and file types only differ in their key sets.
-/
import RenderChain.Text.Split

namespace RenderChain

/-- A path cut into a base and the segments after it. -/
structure Suffixes where
  base : String
  segments : List String
  deriving DecidableEq, Repr

namespace Suffixes

/-- The last component of a path, and what comes before it (with its `/`). -/
def splitName (path : List Char) : List Char × List Char :=
  ((path.reverse.dropWhile (· ≠ '/')).reverse, (path.reverse.takeWhile (· ≠ '/')).reverse)

/-- Cuts a path at the periods of its last component, the first character of
    the component excepted. -/
def parse (path : String) : Suffixes :=
  let (folder, name) := splitName path.toList
  match name with
  | [] => ⟨path, []⟩
  | first :: rest =>
    match rest.dropWhile (· ≠ '.') with
    | [] => ⟨path, []⟩
    | _ :: tail =>
      ⟨String.ofList (folder ++ first :: rest.takeWhile (· ≠ '.')),
        (Text.pieces '.' tail).map String.ofList⟩

end Suffixes

/-! ## Keys -/

/-- A key found at the end of a list of segments, and how many of them it covers. -/
structure KeyMatch where
  key : String
  consumed : Nat
  deriving DecidableEq, Repr

/-- Segments as a key. -/
def dotted (segments : List String) : String := Text.join '.' segments

/-- The dotted trailing runs of the segments, the longest first. -/
def candidates : List String → List String
  | [] => []
  | s :: rest => dotted (s :: rest) :: candidates rest

/-- The longest trailing run that is a known key. -/
def longestKey (known : String → Bool) : List String → Option KeyMatch
  | [] => none
  | s :: rest =>
    if known (dotted (s :: rest)) then some ⟨dotted (s :: rest), rest.length + 1⟩
    else longestKey known rest

theorem longestKey_consumed {known : String → Bool} {segments : List String} {m : KeyMatch}
    (h : longestKey known segments = some m) :
    0 < m.consumed ∧ m.consumed ≤ segments.length := by
  induction segments with
  | nil => simp [longestKey] at h
  | cons s rest ih =>
    unfold longestKey at h
    split at h
    · cases h; simp
    · have := ih h
      exact ⟨this.1, Nat.le_succ_of_le this.2⟩

/-- What is left of the segments when a match is cut off. -/
def before (segments : List String) (consumed : Nat) : List String :=
  segments.take (segments.length - consumed)

/-- The keys found one after the other from the right, each the longest at the
    end of what the previous ones left. -/
def chain (known : String → Bool) (segments : List String) : List KeyMatch :=
  match _h : longestKey known segments with
  | none => []
  | some m => m :: chain known (before segments m.consumed)
termination_by segments.length
decreasing_by
  have := longestKey_consumed _h
  simp only [before, List.length_take]
  omega

/-- How many segments the matches cover. -/
def consumedBy : List KeyMatch → Nat
  | [] => 0
  | m :: rest => m.consumed + consumedBy rest

/-- The longest of a path's keys. -/
def Suffixes.resolve (s : Suffixes) (known : String → Bool) : Option KeyMatch :=
  longestKey known s.segments

end RenderChain
