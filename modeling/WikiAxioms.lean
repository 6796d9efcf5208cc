import WikiAxioms.Command.Outcome
import WikiAxioms.Compile
import WikiAxioms.Main
import WikiAxioms.Markup.Report
import WikiAxioms.Markup.Scanner
import WikiAxioms.Output.Functional
import WikiAxioms.Output.Triples
import WikiAxioms.Output.Writer
import WikiAxioms.Pattern.Automaton
import WikiAxioms.Proofs.Catalog.Agreement
import WikiAxioms.Proofs.Catalog.Bounds
import WikiAxioms.Proofs.Catalog.Declaring
import WikiAxioms.Proofs.Catalog.History
import WikiAxioms.Proofs.Catalog.Listing
import WikiAxioms.Proofs.Catalog.Lists
import WikiAxioms.Proofs.Catalog.Name
import WikiAxioms.Proofs.Catalog.Policy
import WikiAxioms.Proofs.Catalog.Reading
import WikiAxioms.Proofs.Catalog.Standard
import WikiAxioms.Proofs.Catalog.Table
import WikiAxioms.Proofs.Catalog.WellFormed
import WikiAxioms.Proofs.Command.Isolation
import WikiAxioms.Proofs.Decimal.Order
import WikiAxioms.Proofs.Decimal.Reading
import WikiAxioms.Proofs.Decimal.Value
import WikiAxioms.Proofs.Decimal.Written
import WikiAxioms.Proofs.Entity
import WikiAxioms.Proofs.Markup.Arguments
import WikiAxioms.Proofs.Markup.Backtracking
import WikiAxioms.Proofs.Markup.Equality
import WikiAxioms.Proofs.Markup.Fields
import WikiAxioms.Proofs.Markup.FirstOffence
import WikiAxioms.Proofs.Markup.Grammar
import WikiAxioms.Proofs.Markup.Holes
import WikiAxioms.Proofs.Markup.Lexing
import WikiAxioms.Proofs.Markup.Marks
import WikiAxioms.Proofs.Markup.Nesting
import WikiAxioms.Proofs.Markup.Reordering
import WikiAxioms.Proofs.Markup.Rewriting
import WikiAxioms.Proofs.Markup.RoundTrip
import WikiAxioms.Proofs.Markup.Scanner
import WikiAxioms.Proofs.Markup.Scanning
import WikiAxioms.Proofs.Markup.Segments
import WikiAxioms.Proofs.Markup.Slices
import WikiAxioms.Proofs.Markup.Tiling
import WikiAxioms.Proofs.Output.Backend
import WikiAxioms.Proofs.Output.Cancellation
import WikiAxioms.Proofs.Output.Decoding
import WikiAxioms.Proofs.Output.Delimiters
import WikiAxioms.Proofs.Output.Fault
import WikiAxioms.Proofs.Output.Groups
import WikiAxioms.Proofs.Output.NormalForm
import WikiAxioms.Proofs.Output.Run
import WikiAxioms.Proofs.Output.Term
import WikiAxioms.Proofs.Output.TripleGrammar
import WikiAxioms.Proofs.Output.Warnings
import WikiAxioms.Proofs.Text.Bytes
import WikiAxioms.Proofs.Text.Runs
import WikiAxioms.Proofs.Text.Search
import WikiAxioms.Proofs.Text.Spelling
import WikiAxioms.Proofs.Text.Trim
import WikiAxioms.Proofs.Text.UpperCase
import WikiAxioms.Settings
