import Specimen.Main
import Specimen.Random.Scripted
import Specimen.Calls
import Specimen.Proofs.Random.Uniform
import Specimen.Proofs.Random.Pick
import Specimen.Proofs.Pattern.Drawing
import Specimen.Proofs.Random.Text
import Specimen.Proofs.Schema.Dependencies
import Specimen.Proofs.Schema.Selection
import Specimen.Proofs.Random.FormatValue
import Specimen.Proofs.Schema.Alike
import Specimen.Proofs.Schema.Reading
import Specimen.Proofs.Schema.Inside
import Specimen.Proofs.Sampler.Alike
import Specimen.Proofs.Sampler.Inlining
import Specimen.Proofs.Double
import Specimen.Proofs.Schema.Plain
import Specimen.Proofs.Schema.PlainReading
import Specimen.Proofs.Sampler.Plain
import Specimen.Proofs.Validation.Plain
import Specimen.Proofs.Sampler.RoundTrip
import Specimen.Proofs.Sampler.Kinds
import Specimen.Proofs.Pattern.Ascii
import Specimen.Proofs.Pattern.Branches
import Specimen.Proofs.Pattern.Building
import Specimen.Proofs.Pattern.Found
import Specimen.Proofs.Sampler.Document
import Specimen.Proofs.Schema.ClosedNames
import Specimen.Proofs.Schema.Overlaid
import Specimen.Proofs.Schema.Unread
import Specimen.Proofs.Sampler.Unread
import Specimen.Proofs.Sampler.Calls
import Specimen.Proofs.Draw.Series
import Specimen.Proofs.CommandLine.Output
import Specimen.Proofs.Double.Grid
import Specimen.Proofs.Double.Rounding
import Specimen.Proofs.Schema.Bounds
import Specimen.Proofs.Random.Words
import Specimen.Proofs.Sampler.Literals
import Specimen.Proofs.CommandLine.EntryPoints
import Specimen.Proofs.Decimal.Digits
import Specimen.Proofs.Decimal.Shortest
import Specimen.Proofs.Json.Valid
import Specimen.Proofs.Json.Numbers
import Specimen.Proofs.Json.ReadBack
import Specimen.Proofs.Json.Streams
import Specimen.Proofs.Json.Lines
import Specimen.Proofs.Schema.Loading
import Specimen.Proofs.Sampler.Valid
import Specimen.Proofs.CommandLine.Printed
import Specimen.Proofs.Double.Quotient
import Specimen.Proofs.Schema.Multiples
import Specimen.Proofs.Random.Ending
import Specimen.Proofs.Sampler.Multiples
import Specimen.Proofs.Schema.DeclaredNames
import Specimen.Proofs.Schema.Layers
import Specimen.Proofs.Json.Same
import Specimen.Proofs.Sampler.Slots
import Specimen.Proofs.Pieces
import Specimen.Proofs.Random.Positions
import Specimen.Proofs.Json.Pointers
import Specimen.Proofs.Sampler.References
import Specimen.Proofs.Calendar
import Specimen.Proofs.Random.FormatGrammar
import Specimen.Proofs.Schema.Closure
import Specimen.Proofs.Random.Chunks
import Specimen.Proofs.Random.Ranges
import Specimen.Proofs.Double.Nearest
import Specimen.Proofs.Double.Halves
import Specimen.Proofs.Double.Arithmetic
import Specimen.Proofs.Random.Doubles
import Specimen.Proofs.Schema.NumberBounds
import Specimen.Proofs.Sampler.Numbers
import Specimen.Proofs.Pattern.Backslashes
import Specimen.Proofs.Schema.Counts
