/-
  RenderChain/Error.lean
  ======================
  **What can go wrong**, as causes, and the sentence that reports each cause.

  A registration error is met while a pipeline is being configured; it says
  which rule of the registries a call broke.  An `Error` is met when templates
  are resolved, loaded or rendered; a registration error can turn into one when
  a whole configuration is read at once.  The wording is in the `message`
  functions and nowhere else.
-/
namespace RenderChain

/-- Why a text is no extension key. -/
inductive ExtensionFault
  | empty
  | leadingPeriod
  | pathSeparator
  | emptySegment
  deriving DecidableEq, Repr

def ExtensionFault.message : ExtensionFault → String
  | .empty => "extension is empty"
  | .leadingPeriod => "extensions are registered without a leading period"
  | .pathSeparator => "extensions cannot contain path separators"
  | .emptySegment => "extension contains an empty segment"

/-- A broken rule of a registry. -/
inductive RegistrationError
  | invalidExtension (extension : String) (fault : ExtensionFault)
  | duplicateEngine (extension : String)
  | duplicateGlobal (mimetype name : String)
  | conflictingExtension (extension first second : String)
  | unknownDefaultFileType (mimetype : String)
  | unknownEngine (extension name : String)
  | engineWithoutFileTypes (extension : String)
  deriving DecidableEq, Repr

def RegistrationError.message : RegistrationError → String
  | .invalidExtension extension fault =>
    "invalid extension '" ++ extension ++ "': " ++ fault.message
  | .duplicateEngine extension =>
    "an engine is already registered for extension '" ++ extension ++ "'"
  | .duplicateGlobal mimetype name =>
    "global '" ++ name ++ "' is already registered for file type '" ++ mimetype ++ "'"
  | .conflictingExtension extension first second =>
    "extension '" ++ extension ++ "' is claimed by both '" ++ first ++ "' and '" ++ second ++ "'"
  | .unknownDefaultFileType mimetype =>
    "default file type '" ++ mimetype ++ "' is not registered"
  | .unknownEngine extension name =>
    "unknown engine '" ++ name ++ "' for extension '" ++ extension ++ "'"
  | .engineWithoutFileTypes extension =>
    "engine '" ++ extension ++ "' is registered but no file types are"

/-- Why a file operation failed. -/
inductive FileFault
  | notFound
  | notDirectory
  | isDirectory
  | alreadyExists
  | linkLoop
  | invalidText
  | nulInName
  | nameTooLong
  | denied
  | other (text : String)
  deriving DecidableEq, Repr

/-- The operating system's sentence, with its error number. -/
def FileFault.message : FileFault → String
  | .notFound => "No such file or directory (os error 2)"
  | .notDirectory => "Not a directory (os error 20)"
  | .isDirectory => "Is a directory (os error 21)"
  | .alreadyExists => "File exists (os error 17)"
  | .linkLoop => "Too many levels of symbolic links (os error 40)"
  | .invalidText => "stream did not contain valid UTF-8"
  | .nulInName => "file name contained an unexpected NUL byte"
  | .nameTooLong => "File name too long (os error 36)"
  | .denied => "Permission denied (os error 13)"
  | .other text => text

/-- Why a configuration document was refused. -/
inductive DocumentFault
  /-- The text is no single well-formed document, or one that is not sound. -/
  | malformed
  | unknownField (name : String)
  | duplicateField (name : String)
  /-- A list of folders that is neither one path nor a list of paths. -/
  | notOneOrMany
  /-- A value among the folders that has a tag of the document's own. -/
  | taggedValue (place : String)
  /-- A value of another type than its field; `field` is empty for the document itself. -/
  | wrongType (field found expected : String)
  deriving DecidableEq, Repr

def DocumentFault.message : DocumentFault → String
  | .malformed => "malformed document"
  | .unknownField name =>
    "unknown field `" ++ name ++
      "`, expected one of `rootdir`, `rootdirs`, `cachedir`, `default_format`, `engines`"
  | .duplicateField name => "duplicate field `" ++ name ++ "`"
  | .notOneOrMany => "data did not match any variant of untagged enum OneOrMany"
  | .taggedValue place =>
    place ++ ": untagged and internally tagged enums do not support enum input"
  | .wrongType field found expected =>
    (if field.isEmpty then "" else field ++ ": ") ++
      "invalid type: " ++ found ++ ", expected " ++ expected

/-- What a pipeline refuses about its configuration. -/
inductive ConfigFault
  | noEngine (extension : String)
  | unregisteredFileType (mimetype : String)
  | notADirectory (root : String)
  | document (fault : DocumentFault)
  | other (text : String)
  deriving DecidableEq, Repr

def ConfigFault.message : ConfigFault → String
  | .noEngine extension => "no engine for extension '" ++ extension ++ "'"
  | .unregisteredFileType mimetype =>
    "file type '" ++ mimetype ++ "' was not registered when the pipeline was finalized"
  | .notADirectory root => "template root '" ++ root ++ "' is not a directory"
  | .document fault => fault.message
  | .other text => text

/-- A failure of resolving, loading, rendering or configuring. -/
inductive Error
  | templateNotFound (path : String)
  | registration (error : RegistrationError)
  | render (path message : String)
  | io (path : String) (fault : FileFault)
  | config (fault : ConfigFault)
  deriving DecidableEq, Repr

def Error.message : Error → String
  | .templateNotFound path => "template not found: " ++ path
  | .registration error => error.message
  | .render path message => "failed to render '" ++ path ++ "': " ++ message
  | .io path fault => "failed to read '" ++ path ++ "': " ++ fault.message
  | .config fault => "invalid configuration: " ++ fault.message

/-- Only this error makes a chain of loaders try its next member. -/
def Error.isNotFound : Error → Bool
  | .templateNotFound _ => true
  | _ => false

end RenderChain
