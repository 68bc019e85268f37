/-
  RenderChain/Pipeline/Describe.lean
  ==================================
  **Diagnostic texts.**  Registries, pipelines and resolutions can be described
  in one line, for logs and for error reports: a record is its name and its
  fields in braces, a list stands in brackets, an absent value is `None`.

  They show keys and counts; loaders, engines and post-processors are only
  counted, and a global is shown by its name.
-/
import RenderChain.Pipeline.Builder
import RenderChain.Text.Escape

namespace RenderChain

namespace Describe

def string (s : String) : String := Text.quoted s

def list (items : List String) : String := "[" ++ ", ".intercalate items ++ "]"

def option : Option String → String
  | none => "None"
  | some text => "Some(" ++ text ++ ")"

def bool (b : Bool) : String := if b then "true" else "false"

/-- A record with its fields, of which there is at least one. -/
def record (name : String) (fields : List (String × String)) : String :=
  name ++ " \x7b " ++ ", ".intercalate (fields.map fun f => f.1 ++ ": " ++ f.2) ++ " \x7d"

/-- Keys and values in braces. -/
def table (entries : List (String × String)) : String :=
  "\x7b" ++ ", ".intercalate (entries.map fun e => e.1 ++ ": " ++ e.2) ++ "\x7d"

end Describe

open Describe (string list option bool record table)

variable {σ : Type}

def EngineContext.describe (c : EngineContext) : String :=
  record "EngineContext"
    [("rootdirs", list (c.roots.map string)), ("cachedir", option (c.cachedir.map string))]

def FileType.describe (ft : FileType σ) : String :=
  record "FileType"
    [("mimetype", string ft.mimetype), ("extensions", list (ft.extensions.map string)),
      ("postprocessors", toString ft.postprocessors.length),
      ("globals", list (ft.globals.map fun g => string g.1))]

def FileTypeRegistry.describe (r : FileTypeRegistry σ) : String :=
  record "FileTypeRegistry" [("types", list (r.types.map FileType.describe))]

def FileTypeIndex.describe (index : FileTypeIndex σ) : String :=
  let entries (t : Keyed (FileType σ)) := table (t.map fun e => (string e.1, e.2.describe))
  record "FileTypeIndex"
    [("by_mimetype", entries index.byMimetype), ("by_extension", entries index.byExtension),
      ("default", option (index.default.map FileType.describe))]

/-- A chain of loaders; only their number is shown. -/
def Loader.describeChain (members : List (Loader σ)) : String :=
  record "ChainLoader" [("loaders", toString members.length)]

def LoaderRegistry.describe (r : LoaderRegistry σ) : String :=
  record "LoaderRegistry"
    [("rootdirs", list (r.roots.map string)), ("extensions", list (r.chains.keys.map string)),
      ("has_default", bool r.default.isSome)]

def LoaderIndex.describe (index : LoaderIndex σ) : String :=
  record "LoaderIndex"
    [("extensions", list (index.extensions.map string)),
      ("has_default", bool index.default.isSome)]

def EngineRegistry.describe (r : EngineRegistry σ) : String :=
  record "EngineRegistry" [("extensions", list (r.extensions.map string))]

def EngineIndex.describe (index : EngineIndex σ) : String :=
  record "EngineIndex" [("extensions", list (index.extensions.map string))]

def PipelineBuilder.describe (b : PipelineBuilder σ) : String :=
  record "PipelineBuilder"
    [("context", b.context.describe), ("default_filetype", option (b.defaultFileType.map string)),
      ("loaders", b.loaders.describe), ("filetypes", b.filetypes.describe),
      ("engines", b.engines.describe), ("generation", toString b.generation)]

def Pipeline.describe (p : Pipeline σ) : String :=
  record "Pipeline"
    [("context", p.context.describe), ("loaders", p.loaders.describe),
      ("filetypes", p.filetypes.describe), ("engines", p.engines.describe),
      ("generation", toString p.generation)]

def Resolution.describe (r : Resolution σ) : String :=
  record "Resolution"
    [("loader_key", option (r.loaderKey.map string)), ("filetype", string r.filetype.mimetype),
      ("filetype_key", option (r.filetypeKey.map string)),
      ("chain", list (r.engineKeys.map string))]

end RenderChain
