import PropertyGraph.Diagram.Export
import PropertyGraph.Diagram.Import
import PropertyGraph.Flowchart
import PropertyGraph.Model.Edit
import PropertyGraph.Query
import PropertyGraph.Record.Model
import PropertyGraph.ReferenceGraph.Export
import PropertyGraph.ReferenceGraph.Import
import PropertyGraph.Proofs.Checks
import PropertyGraph.Proofs.Lists
import PropertyGraph.Proofs.Conversion
import PropertyGraph.Proofs.Faults
import PropertyGraph.Proofs.Validity
import PropertyGraph.Proofs.Entities
import PropertyGraph.Proofs.Edits
import PropertyGraph.Proofs.Reachable
import PropertyGraph.Proofs.Mutation
import PropertyGraph.Proofs.Shape
import PropertyGraph.Proofs.ReferenceGraph.Codec
import PropertyGraph.Proofs.TypeTag
import PropertyGraph.Proofs.Layout
import PropertyGraph.Proofs.ReferenceGraph.Numbering
import PropertyGraph.Proofs.ReferenceGraph.Reread
import PropertyGraph.Proofs.ReferenceGraph.Export
import PropertyGraph.Proofs.ReferenceGraph.Reimport
import PropertyGraph.Proofs.JsonEquality
import PropertyGraph.Proofs.ReferenceGraph.Normal
import PropertyGraph.Proofs.ReferenceGraph.Renumbering
import PropertyGraph.Proofs.LowerCase
import PropertyGraph.Proofs.ReferenceGraph.FixedPoint
import PropertyGraph.Proofs.ReferenceGraph.Imported
import PropertyGraph.Proofs.ReferenceGraph.Sources
import PropertyGraph.Proofs.Recheck
import PropertyGraph.Proofs.ReferenceGraph.Checked
import PropertyGraph.Proofs.ReferenceGraph.Normalization
import PropertyGraph.Proofs.ReferenceGraph.Allocation
import PropertyGraph.Proofs.ReferenceGraph.RuleTargets
import PropertyGraph.Proofs.ReferenceGraph.StoredIds
import PropertyGraph.Proofs.ReferenceGraph.RuleRetention
import PropertyGraph.Proofs.ReferenceGraph.Identity
import PropertyGraph.Proofs.ReferenceGraph.MappedColumns
import PropertyGraph.Proofs.Trimming
import PropertyGraph.Proofs.Diagram.PropertyText
import PropertyGraph.Proofs.Members
import PropertyGraph.Proofs.Diagram.Codec
import PropertyGraph.Proofs.Diagram.Redrawing
import PropertyGraph.Proofs.Diagram.Keys
import PropertyGraph.Proofs.Diagram.RoundTrip
import PropertyGraph.Proofs.Diagram.Reread
import PropertyGraph.Proofs.Record.Codec
import PropertyGraph.Proofs.Record.RoundTrip
import PropertyGraph.Proofs.Rounding
import PropertyGraph.Proofs.Numeral
import PropertyGraph.Proofs.JsonText
import PropertyGraph.Proofs.TidyDocuments
import PropertyGraph.Proofs.DocumentText
import PropertyGraph.Proofs.Pattern
import PropertyGraph.Proofs.ConstraintNames
import PropertyGraph.Proofs.ReferenceGraph.StrictKeys
import PropertyGraph.Proofs.ReferenceGraph.Resolution
import PropertyGraph.Proofs.Construction
import PropertyGraph.Proofs.ReferenceGraph.Correspondence
import PropertyGraph.Proofs.Diagram.KeyMark
import PropertyGraph.Proofs.Diagram.Acceptance
import PropertyGraph.Proofs.Diagram.Ends
import PropertyGraph.Proofs.Removal
import PropertyGraph.Proofs.Undoing
import PropertyGraph.Proofs.ReferenceGraph.FreshIds
import PropertyGraph.Proofs.ReferenceGraph.NodeBlocks
import PropertyGraph.Proofs.UnitOrder
import PropertyGraph.Proofs.Words
import PropertyGraph.Proofs.IngestTexts
import PropertyGraph.Proofs.ReferenceGraph.TableInference
import PropertyGraph.Proofs.ReferenceGraph.IdSearch
import PropertyGraph.Proofs.PropertyTypes
import PropertyGraph.Proofs.FlowchartTexts
