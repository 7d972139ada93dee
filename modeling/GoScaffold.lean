import GoScaffold.Catalog.Basic
import GoScaffold.Catalog.Listing
import GoScaffold.Catalog.OfSource
import GoScaffold.Code.Basic
import GoScaffold.Code.Printer
import GoScaffold.CommandLine.Arguments
import GoScaffold.CommandLine.Folder
import GoScaffold.CommandLine.Run
import GoScaffold.CommandLine.Switch
import GoScaffold.Identifier.Basic
import GoScaffold.Label
import GoScaffold.Main
import GoScaffold.Parameter
import GoScaffold.Proofs.Catalog.Comments
import GoScaffold.Proofs.Catalog.Contents
import GoScaffold.Proofs.Catalog.FieldLines
import GoScaffold.Proofs.Catalog.Insertions
import GoScaffold.Proofs.Catalog.InterfaceFile
import GoScaffold.Proofs.Catalog.Labels
import GoScaffold.Proofs.Catalog.Listing
import GoScaffold.Proofs.Catalog.Locality
import GoScaffold.Proofs.Catalog.Methods
import GoScaffold.Proofs.Catalog.StructFile
import GoScaffold.Proofs.CommandLine.Arguments
import GoScaffold.Proofs.CommandLine.Delivery
import GoScaffold.Proofs.CommandLine.Folder
import GoScaffold.Proofs.CommandLine.Fragments
import GoScaffold.Proofs.FirstFailure
import GoScaffold.Proofs.Identifier.Capitals
import GoScaffold.Proofs.Identifier.Casing
import GoScaffold.Proofs.Identifier.Classes
import GoScaffold.Proofs.Identifier.Fresh
import GoScaffold.Proofs.Identifier.Receiver
import GoScaffold.Proofs.Keyed
import GoScaffold.Proofs.LabelText
import GoScaffold.Proofs.Parameter.Naming
import GoScaffold.Proofs.Parameter.Written
import GoScaffold.Proofs.Request
import GoScaffold.Proofs.Scaffold.Builder
import GoScaffold.Proofs.Scaffold.Capture
import GoScaffold.Proofs.Scaffold.Dispatch
import GoScaffold.Proofs.Scaffold.Implementation
import GoScaffold.Proofs.Scaffold.Insertable
import GoScaffold.Proofs.Scaffold.MemberNames
import GoScaffold.Proofs.Scaffold.Variables
import GoScaffold.Proofs.Scaffold.VerbList
import GoScaffold.Proofs.Source.BlankedBraces
import GoScaffold.Proofs.Source.BraceCount
import GoScaffold.Proofs.Source.Bracketed
import GoScaffold.Proofs.Source.ClosedBraces
import GoScaffold.Proofs.Source.DroppedText
import GoScaffold.Proofs.Source.Headerless
import GoScaffold.Proofs.Source.Headers
import GoScaffold.Proofs.Source.InvisibleLimit
import GoScaffold.Proofs.Source.Limited
import GoScaffold.Proofs.Source.MemberEnds
import GoScaffold.Proofs.Source.MemberLines
import GoScaffold.Proofs.Source.Nested
import GoScaffold.Proofs.Source.NestingLimit
import GoScaffold.Proofs.Source.SameOutside
import GoScaffold.Proofs.Source.Scan
import GoScaffold.Proofs.Source.Tokens
import GoScaffold.Proofs.Source.Unclosed
import GoScaffold.Proofs.Source.Written
import GoScaffold.Proofs.Text.ClosingPosition
import GoScaffold.Proofs.Text.Decomposition
import GoScaffold.Proofs.Text.Pieces
import GoScaffold.Proofs.Text.Positions
import GoScaffold.Proofs.Text.Words
import GoScaffold.Request
import GoScaffold.Scaffold.Struct
import GoScaffold.Scaffold.Target
import GoScaffold.Source.Declaration
import GoScaffold.Source.MemberLine
import GoScaffold.Source.Token
import GoScaffold.Text.Basic
import GoScaffold.Unicode.Casing
import GoScaffold.Unicode.Property
