import SchemaGrammar.Main
import SchemaGrammar.Schema.Equivalence
import SchemaGrammar.Proofs.Keywords
import SchemaGrammar.Proofs.Position
import SchemaGrammar.Proofs.Reading
import SchemaGrammar.Proofs.Context
import SchemaGrammar.Proofs.Consulted
import SchemaGrammar.Proofs.OnePass
import SchemaGrammar.Proofs.Layout
import SchemaGrammar.Proofs.RoundTrip
import SchemaGrammar.Proofs.Paths
import SchemaGrammar.Proofs.Saving
import SchemaGrammar.Proofs.Trace
import SchemaGrammar.Proofs.Diagnostics
import SchemaGrammar.Proofs.Independence
import SchemaGrammar.Proofs.Reordering
import SchemaGrammar.Proofs.LineBreaks
import SchemaGrammar.Proofs.StringNodes
import SchemaGrammar.Proofs.OptionalMark
import SchemaGrammar.Proofs.CompactText
import SchemaGrammar.Proofs.Quotation
