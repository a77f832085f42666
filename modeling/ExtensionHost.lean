import ExtensionHost.File.Tree
import ExtensionHost.Main
import ExtensionHost.Proofs.Bus.Counting
import ExtensionHost.Proofs.Bus.Endings
import ExtensionHost.Proofs.Bus.Limits
import ExtensionHost.Proofs.Bus.Outdated
import ExtensionHost.Proofs.Bus.Rebuilding
import ExtensionHost.Proofs.Bus.Refinement
import ExtensionHost.Proofs.Bus.Remaining
import ExtensionHost.Proofs.Event.Ancestry
import ExtensionHost.Proofs.Event.Declarations
import ExtensionHost.Proofs.Extension.Stability
import ExtensionHost.Proofs.Graph.Order
import ExtensionHost.Proofs.Graph.Representation
import ExtensionHost.Proofs.Manifest.Outlines
import ExtensionHost.Proofs.Manifest.Validation
import ExtensionHost.Table.Lemmas
import ExtensionHost.Proofs.Graph.Successors
import ExtensionHost.Proofs.Bus.Serving
import ExtensionHost.Proofs.Demo.Accounting
import ExtensionHost.Proofs.Demo.Precedence
import ExtensionHost.Proofs.Extension.History
import ExtensionHost.Proofs.Event.Reordering
import ExtensionHost.Proofs.Extension.Drawing
import ExtensionHost.Proofs.Extension.Solvability
import ExtensionHost.Proofs.Graph.Calls
import ExtensionHost.Proofs.Graph.FirstCircle
import ExtensionHost.Proofs.Bus.Bystanders
import ExtensionHost.Proofs.Graph.Unfolding
import ExtensionHost.Proofs.Bus.Failures
