import ServiceContract.Bundle.Encoding
import ServiceContract.Bundle.Format
import ServiceContract.Bundle.Generate
import ServiceContract.Bundle.Report
import ServiceContract.Command.Arguments
import ServiceContract.Command.Run
import ServiceContract.Document.Encoding
import ServiceContract.Document.Reading
import ServiceContract.Log
import ServiceContract.Main
import ServiceContract.Schema.Load
import ServiceContract.Settings.Choice
import ServiceContract.Yaml.Reading
import ServiceContract.Proofs.Attempts
import ServiceContract.Proofs.Before
import ServiceContract.Proofs.Operation
import ServiceContract.Proofs.Pieces
import ServiceContract.Proofs.Pointwise
import ServiceContract.Proofs.Division
import ServiceContract.Proofs.Grammar
import ServiceContract.Proofs.Template
import ServiceContract.Proofs.Segments
import ServiceContract.Proofs.Shape
import ServiceContract.Proofs.Canonical
import ServiceContract.Proofs.Tables
import ServiceContract.Proofs.Binding
import ServiceContract.Proofs.Fragment
import ServiceContract.Proofs.Tags
import ServiceContract.Proofs.Precedence
import ServiceContract.Proofs.Parameters
import ServiceContract.Proofs.TagStrings
import ServiceContract.Proofs.Coherence
import ServiceContract.Proofs.Paths
import ServiceContract.Proofs.Conflicts
import ServiceContract.Proofs.Isolation
import ServiceContract.Proofs.Extension
import ServiceContract.Proofs.Mapping
import ServiceContract.Proofs.Noted
import ServiceContract.Proofs.Names
import ServiceContract.Proofs.WellFormed
import ServiceContract.Proofs.Composition
import ServiceContract.Proofs.Closed
import ServiceContract.Proofs.Image
import ServiceContract.Proofs.Store
import ServiceContract.Proofs.Commands
import ServiceContract.Proofs.Policies
import ServiceContract.Proofs.Reordering
import ServiceContract.Proofs.Identity
import ServiceContract.Proofs.Causes
import ServiceContract.Proofs.Handlers
import ServiceContract.Proofs.Spellings
import ServiceContract.Proofs.Lookup
import ServiceContract.Proofs.Contracts
import ServiceContract.Proofs.Depth
import ServiceContract.Proofs.History
import ServiceContract.Proofs.WordBreaks
import ServiceContract.Proofs.Pushes
import ServiceContract.Proofs.Members
import ServiceContract.Proofs.Written
import ServiceContract.Proofs.Arranged
import ServiceContract.Proofs.RoundTrip
