import ServiceAtlas.Files.Store
import ServiceAtlas.Files.Tree
import ServiceAtlas.Main
import ServiceAtlas.Proofs.Record.Cursors
import ServiceAtlas.Proofs.Record.Alignment
import ServiceAtlas.Proofs.Record.Contents
import ServiceAtlas.Proofs.Record.Values
import ServiceAtlas.Proofs.Record.Grouping
import ServiceAtlas.Proofs.Command.Agreement
import ServiceAtlas.Proofs.Command.Scan
import ServiceAtlas.Proofs.Extract.Errors
import ServiceAtlas.Proofs.Extract.Filled
import ServiceAtlas.Proofs.Extract.Holdings
import ServiceAtlas.Proofs.Extract.Items
import ServiceAtlas.Proofs.Extract.Outcome
import ServiceAtlas.Proofs.Extract.Pruning
import ServiceAtlas.Proofs.Extract.Swap
import ServiceAtlas.Proofs.Leaf.Failure
import ServiceAtlas.Proofs.Leaf.Literals
import ServiceAtlas.Proofs.Leaf.Closed
import ServiceAtlas.Proofs.Leaf.Printed
import ServiceAtlas.Proofs.Template.Mirror
import ServiceAtlas.Proofs.Template.BareLines
import ServiceAtlas.Proofs.Template.LineBreaks
import ServiceAtlas.Proofs.Template.Requoting
import ServiceAtlas.Proofs.Template.Faults
import ServiceAtlas.Proofs.Extract.Alike
import ServiceAtlas.Proofs.Leaf.Pipeline
import ServiceAtlas.Proofs.Extract.Weights
import ServiceAtlas.Proofs.Extract.Scalars
import ServiceAtlas.Proofs.Extract.Wildcard
import ServiceAtlas.Proofs.Record.Rendered
import ServiceAtlas.Proofs.Record.Vocabulary
import ServiceAtlas.Proofs.Sources.Choice
import ServiceAtlas.Proofs.Files.Additions
import ServiceAtlas.Proofs.Sources.Validation
