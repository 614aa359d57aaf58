import Schemata.Main
import Schemata.Disk.Tree
import Schemata.Proofs.Outcome
import Schemata.Proofs.FilePath
import Schemata.Proofs.Yaml.Key
import Schemata.Proofs.Keyed
import Schemata.Proofs.Yaml.Merge
import Schemata.Proofs.Decode
import Schemata.Proofs.Catalog
import Schemata.Proofs.Catalog.Reached
import Schemata.Proofs.Load
import Schemata.Proofs.Load.Override
import Schemata.Proofs.Load.Collision
import Schemata.Proofs.Load.Stop
import Schemata.Proofs.Load.Notices
import Schemata.Proofs.Template.Action
import Schemata.Proofs.Template.Same
import Schemata.Proofs.Template.Eval
import Schemata.Proofs.Template.Render
import Schemata.Proofs.Template.BuiltIn
import Schemata.Proofs.Header
import Schemata.Proofs.Generate
import Schemata.Proofs.Cli
import Schemata.Proofs.Decode.Refusal
import Schemata.Proofs.Definition.Kept
import Schemata.Proofs.Definition.Shape
import Schemata.Proofs.Report
import Schemata.Proofs.Load.Replace
import Schemata.Proofs.Yaml.Merge.Refusal
import Schemata.Proofs.Number
import Schemata.Proofs.Yaml.Merge.Settled
import Schemata.Proofs.Decode.Settled
import Schemata.Proofs.Yaml.Merge.Kept
import Schemata.Proofs.Catalog.Collision
import Schemata.Proofs.Catalog.Batches
import Schemata.Proofs.Definition.Refusal
import Schemata.Proofs.Definition.ReadBack
import Schemata.Proofs.Report.Label
import Schemata.Proofs.FilePath.Normal
import Schemata.Proofs.Number.Forms
import Schemata.Proofs.Definition.Names
import Schemata.Proofs.Toml.Reader
import Schemata.Proofs.Toml.Tidy
import Schemata.Proofs.Toml.Document
import Schemata.Proofs.TypeMap
