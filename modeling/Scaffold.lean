import Scaffold.Main
import Scaffold.Proofs.Command.Agreement
import Scaffold.Proofs.Command.Frame
import Scaffold.Proofs.Project.Manifest
import Scaffold.Proofs.Project.ServerText
import Scaffold.Proofs.Project.Table
import Scaffold.Proofs.Python.Annotations
import Scaffold.Proofs.Python.Docstring
import Scaffold.Proofs.Report.Lines
import Scaffold.Proofs.Server.RoundTrip
import Scaffold.Proofs.Source.Alternatives
import Scaffold.Proofs.Source.Bindings
import Scaffold.Proofs.Source.Bounds
import Scaffold.Proofs.Source.Dates
import Scaffold.Proofs.Source.EchoText
import Scaffold.Proofs.Source.Header
import Scaffold.Proofs.Source.LineEnds
import Scaffold.Proofs.Source.Names
import Scaffold.Proofs.Source.Omission
import Scaffold.Proofs.Text.Identifier
import Scaffold.Proofs.Text.Slug
import Scaffold.Proofs.Text.StringLiteral
import Scaffold.Proofs.TypeScript.DefaultEcho
import Scaffold.Proofs.TypeScript.Documentation
import Scaffold.Proofs.TypeScript.Metadata
import Scaffold.Proofs.TypeScript.RegexBody
import Scaffold.Proofs.TypeScript.RegexUnits
import Scaffold.Proofs.Validation.Locality
import Scaffold.Proofs.Validation.Order
