import RdfDataset.BlankLabel
import RdfDataset.Cancellation
import RdfDataset.Dataset
import RdfDataset.Journal
import RdfDataset.Proofs.Execution.Record
import RdfDataset.Proofs.Execution.Stage
import RdfDataset.Proofs.Execution.View
import RdfDataset.Proofs.Execution.Attempt
import RdfDataset.Proofs.Execution.Ending
import RdfDataset.Proofs.Execution.Truncation
import RdfDataset.Proofs.Execution.Effects
import RdfDataset.Proofs.Execution.Unreadable
import RdfDataset.Proofs.Execution.Composition
import RdfDataset.Proofs.Cancellation
import RdfDataset.Proofs.Dispatch
import RdfDataset.Proofs.KeySet
import RdfDataset.Proofs.Lexicon
import RdfDataset.Proofs.Memory
import RdfDataset.Proofs.Session
import RdfDataset.Proofs.Lexicon.Run
import RdfDataset.Proofs.Lexicon.Capacity
import RdfDataset.Proofs.Index.Listing
import RdfDataset.Proofs.KeySet.Run
import RdfDataset.Proofs.Execution.Agreement
import RdfDataset.Proofs.Namespace
import RdfDataset.Proofs.Abbreviation
import RdfDataset.Proofs.Rdf
import RdfDataset.Proofs.Sparql.Consultation
import RdfDataset.Proofs.Sparql.Yield
import RdfDataset.Proofs.Sparql.Conversion
import RdfDataset.Proofs.Sparql.Operation
import RdfDataset.Proofs.Dataset
import RdfDataset.Proofs.Repetition
import RdfDataset.Proofs.CanonicalText
import RdfDataset.Proofs.Index.Run
import RdfDataset.Proofs.Index.Rows
import RdfDataset.Proofs.Insertion
import RdfDataset.Proofs.Insertion.AnyOrder
import RdfDataset.Proofs.Text.Word
import RdfDataset.Proofs.Sparql.QueryForm
import RdfDataset.Proofs.Sparql.Layout
import RdfDataset.Proofs.Sparql.Scoped
import RdfDataset.Proofs.Sparql.Scoped.Statement
import RdfDataset.Proofs.Sparql.Scoped.Request
import RdfDataset.Proofs.Sparql.BlankLabel
import RdfDataset.Proofs.Sparql.Opening
import RdfDataset.Proofs.Sparql.ConfiguredPrefix
import RdfDataset.Proofs.Execution.Lenience
import RdfDataset.Proofs.Execution.Classification
