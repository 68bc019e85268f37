import RenderChain.Config
import RenderChain.Decimal
import RenderChain.Digest
import RenderChain.Engine
import RenderChain.Engine.Builtin
import RenderChain.Engine.Registry
import RenderChain.Engine.Template
import RenderChain.Error
import RenderChain.Extension
import RenderChain.FileType
import RenderChain.FileType.Registry
import RenderChain.Files.Basic
import RenderChain.Files.Edit
import RenderChain.Files.Path
import RenderChain.Files.Walk
import RenderChain.Jinja.Evaluate
import RenderChain.Jinja.Fault
import RenderChain.Jinja.Filter
import RenderChain.Jinja.Operator
import RenderChain.Jinja.Run
import RenderChain.Jinja.Template
import RenderChain.Jinja.Template.Constant
import RenderChain.Jinja.Template.Line
import RenderChain.Jinja.Template.Names
import RenderChain.Jinja.Template.Parse
import RenderChain.Jinja.Test
import RenderChain.Jinja.Token
import RenderChain.Jinja.Value
import RenderChain.Json
import RenderChain.Json.Parse
import RenderChain.Keyed
import RenderChain.Loader
import RenderChain.Loader.Registry
import RenderChain.Pipeline
import RenderChain.Pipeline.Builder
import RenderChain.Pipeline.Configured
import RenderChain.Pipeline.Describe
import RenderChain.Placeholder
import RenderChain.Suffixes
import RenderChain.Text.CaseMap
import RenderChain.Text.Escape
import RenderChain.Text.Split
import RenderChain.Text.Unicode
import RenderChain.World
import RenderChain.Yaml.Cursor
import RenderChain.Yaml.Meaning
import RenderChain.Yaml.Node
import RenderChain.Yaml.Scalar
import RenderChain.Yaml.Tag
import RenderChain.Yaml.Token
import RenderChain.Yaml.Written
import RenderChain.Proofs.Action
import RenderChain.Proofs.Agreement
import RenderChain.Proofs.Answers
import RenderChain.Proofs.BuiltinEngines
import RenderChain.Proofs.CacheKey
import RenderChain.Proofs.Calls
import RenderChain.Proofs.Cells
import RenderChain.Proofs.Configuration
import RenderChain.Proofs.Containment
import RenderChain.Proofs.EmbeddedPaths
import RenderChain.Proofs.Execution
import RenderChain.Proofs.ExtensionKeys
import RenderChain.Proofs.FileTree
import RenderChain.Proofs.FileTypeIndex
import RenderChain.Proofs.Finishing
import RenderChain.Proofs.FolderWalk
import RenderChain.Proofs.History
import RenderChain.Proofs.Includes
import RenderChain.Proofs.Independence
import RenderChain.Proofs.KeptSources
import RenderChain.Proofs.KeyBytes
import RenderChain.Proofs.Links
import RenderChain.Proofs.ListedPaths
import RenderChain.Proofs.Listing
import RenderChain.Proofs.LoaderHistory
import RenderChain.Proofs.LoaderIndex
import RenderChain.Proofs.LoaderKey
import RenderChain.Proofs.Loading
import RenderChain.Proofs.Members
import RenderChain.Proofs.Origins
import RenderChain.Proofs.Owners
import RenderChain.Proofs.PathKeys
import RenderChain.Proofs.PathParts
import RenderChain.Proofs.Paths
import RenderChain.Proofs.Placeholder.Grammar
import RenderChain.Proofs.Placeholder.Names
import RenderChain.Proofs.Placeholder.Passes
import RenderChain.Proofs.PlainText
import RenderChain.Proofs.Refusal
import RenderChain.Proofs.Registering
import RenderChain.Proofs.RegistryHistory
import RenderChain.Proofs.RenderFile
import RenderChain.Proofs.Reordering
import RenderChain.Proofs.ReplacedChain
import RenderChain.Proofs.Resolution
import RenderChain.Proofs.Spelling
import RenderChain.Proofs.Suffixes
import RenderChain.Proofs.Tables
import RenderChain.Proofs.TagOutput
import RenderChain.Proofs.Tags
import RenderChain.Proofs.TemplateLaws
import RenderChain.Proofs.WalkRuns
