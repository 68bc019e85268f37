/-
  RenderChain/Extension.lean
  ==========================
  **Extension keys, and registering under them.**

  Loaders, engines and file types are registered under extensions such as `css`
  or `min.css`, written without a leading period.  A key is the dotted form of one
  or more non-empty segments without `.` and `/`; `Extension.check` accepts exactly
  these and names the first rule that another text breaks.

  A registry is changed in place.  A call that is refused is not undone: it leaves
  its registry as it was only because it looks before it writes.
-/
import RenderChain.Error
import RenderChain.Text.Split

namespace RenderChain

/-! ## Calls -/

/-- A call that changes a registry or is refused.  What it has changed before it is refused
    stays changed. -/
abbrev Registering (ρ α : Type) := EStateM RegistrationError ρ α

namespace Registering

variable {ρ τ α : Type}

/-- Makes a call on a part of a registry.  The part is put back as the call leaves it, also
    if the call is refused. -/
def onPart (part : ρ → τ) (putBack : ρ → τ → ρ) (call : Registering τ α) : Registering ρ α :=
  fun r =>
    match call (part r) with
    | .ok a t => .ok a (putBack r t)
    | .error fault t => .error fault (putBack r t)

/-- What a call makes of a registry, unless it is refused. -/
def outcome (call : Registering ρ α) (r : ρ) : Except RegistrationError ρ :=
  match call r with
  | .ok _ r => .ok r
  | .error fault _ => .error fault

end Registering

/-! ## Keys -/

namespace Extension

/-- The first rule that `extension` breaks, if any. -/
def fault? (extension : String) : Option ExtensionFault :=
  if extension.isEmpty then some .empty
  else if extension.toList.head? = some '.' then some .leadingPeriod
  else if '/' ∈ extension.toList then some .pathSeparator
  else if "" ∈ Text.split '.' extension then some .emptySegment
  else none

/-- Accepts an extension key. -/
def check (extension : String) : Except RegistrationError Unit :=
  match fault? extension with
  | some fault => .error (.invalidExtension extension fault)
  | none => .ok ()

/-- Goes on only with an extension key. -/
def accept {ρ : Type} (extension : String) : Registering ρ Unit :=
  match check extension with
  | .ok () => pure ()
  | .error fault => throw fault

end Extension

end RenderChain
