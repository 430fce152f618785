import AssertionWriter.Main
import AssertionWriter.Surface.Document
import AssertionWriter.Proofs.Catalog.RoundTrip
import AssertionWriter.Proofs.Generation.FileLayout
import AssertionWriter.Proofs.Generation.Paths
import AssertionWriter.Proofs.JavaType.Acceptance
import AssertionWriter.Proofs.QualifiedName.Dotted
import AssertionWriter.Proofs.Surface.Accessors
import AssertionWriter.Proofs.Catalog.Supertypes
import AssertionWriter.Proofs.Surface.Overriding
import AssertionWriter.Proofs.Catalog.Selection
import AssertionWriter.Proofs.Surface.Locality
import AssertionWriter.Proofs.Generation.Independence
import AssertionWriter.Proofs.Files.Looking
import AssertionWriter.Proofs.Template.Loading
import AssertionWriter.Proofs.Generation.Failure
import AssertionWriter.Proofs.CommandLine.ExitCode
import AssertionWriter.Proofs.EntryPoint.Order
import AssertionWriter.Proofs.Generation.Confinement
import AssertionWriter.Proofs.Generation.References
import AssertionWriter.Proofs.Surface.Fields
import AssertionWriter.Proofs.AssertionClass.Predicates
import AssertionWriter.Proofs.AssertionClass.ImportLines
import AssertionWriter.Proofs.AssertionClass.Captures
import AssertionWriter.Proofs.JavaType.Instances
import AssertionWriter.Proofs.Catalog.ElementSearch
import AssertionWriter.Proofs.Catalog.Containers
import AssertionWriter.Proofs.Catalog.Instantiation
import AssertionWriter.Proofs.AssertionClass.HelperClasses
import AssertionWriter.Proofs.JavaType.Malformed
import AssertionWriter.Proofs.Catalog.Requests
import AssertionWriter.Proofs.Template.Simultaneous
import AssertionWriter.Proofs.AssertionClass.Parts
import AssertionWriter.Proofs.QualifiedName.Ambiguity
import AssertionWriter.Proofs.Surface.ElementTypes
import AssertionWriter.Proofs.Generation.MissingTemplates
import AssertionWriter.Proofs.Generation.InTurn
import AssertionWriter.Proofs.Template.Overriding
import AssertionWriter.Proofs.AssertionClass.Importing
