import RamlExpress.Main
import RamlExpress.Proofs.Document.Include
import RamlExpress.Proofs.Document.IncludeChain
import RamlExpress.Proofs.Document.Inline
import RamlExpress.Proofs.Document.Types
import RamlExpress.Proofs.Dump
import RamlExpress.Proofs.Identifier
import RamlExpress.Proofs.Nesting
import RamlExpress.Proofs.RequestBody
import RamlExpress.Proofs.FileSystem
import RamlExpress.Proofs.FileSystem.Frame
import RamlExpress.Proofs.Field.Exact
import RamlExpress.Proofs.Run
import RamlExpress.Proofs.Fragment
import RamlExpress.Proofs.Naming.Stable
import RamlExpress.Proofs.Selection
import RamlExpress.Proofs.Uri.RoundTrip
import RamlExpress.Proofs.Route.Inverse
import RamlExpress.Proofs.OrderedMap.Records
