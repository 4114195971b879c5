import Assay.Primitive
import Assay.Fault
import Assay.Rule.Shapes
import Assay.Rule.Functions
import Assay.Intake
import Assay.Proofs.Compositional
import Assay.Proofs.Doubles
import Assay.Proofs.Revalidation
import Assay.Proofs.Checks
import Assay.Proofs.Conformance
import Assay.Proofs.Locations
import Assay.Proofs.Undeclared
import Assay.Proofs.Erasure
import Assay.Proofs.Accumulation
import Assay.Proofs.LineBreaks
import Assay.Proofs.PathText
import Assay.Proofs.ObjectOutcome
import Assay.Proofs.IntegerExtraction
import Assay.Proofs.Canonicalization
import Assay.Proofs.Addresses
import Assay.Proofs.ArrayOutcome
import Assay.Proofs.NumberBounds
import Assay.Proofs.Wrappers
import Assay.Proofs.RequiredFields
import Assay.Proofs.FieldOrder
import Assay.Proofs.Grouping
import Assay.Proofs.StringChains
import Assay.Proofs.TrimmedFirst
import Assay.Proofs.Reports
import Assay.Proofs.IntegerChains
import Assay.Proofs.Uuids
import Assay.Proofs.Nesting
import Assay.Proofs.NonEmptyLists
import Assay.Proofs.FormatSources
