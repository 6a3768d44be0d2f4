import StackWatch.KeyMap
import StackWatch.Json.Basic
import StackWatch.Text.Blank
import StackWatch.Text.Percent
import StackWatch.Text.Quoted
import StackWatch.Text.LowerCase
import StackWatch.Decimal.Shortest
import StackWatch.Decimal.Reading
import StackWatch.Json.Printer
import StackWatch.Json.Parser
import StackWatch.Catalog
import StackWatch.Resolver
import StackWatch.Grant
import StackWatch.Http.Client
import StackWatch.Http.Message
import StackWatch.Http.Transcript
import StackWatch.Metrics.Entity
import StackWatch.Resource.Collect
import StackWatch.Session.Operation
import StackWatch.Check.Sections
import StackWatch.Toml.Document
import StackWatch.ConfigFile
import StackWatch.CommandLine.Execution
import StackWatch.Main
import StackWatch.Proofs.Coherence
import StackWatch.Proofs.Policy
import StackWatch.Proofs.Entries
import StackWatch.Proofs.Expiry
import StackWatch.Proofs.Reports
import StackWatch.Proofs.Confinement
import StackWatch.Proofs.Representation
import StackWatch.Proofs.Accord
import StackWatch.Proofs.Standing
import StackWatch.Proofs.Availability
import StackWatch.Proofs.Escaping
import StackWatch.Proofs.Routing
import StackWatch.Proofs.Origin
import StackWatch.Proofs.Rearranging
import StackWatch.Proofs.Agreement
import StackWatch.Proofs.Indifference
import StackWatch.Proofs.Uniqueness
import StackWatch.Proofs.Lookups
import StackWatch.Proofs.Granting
import StackWatch.Proofs.Independence
import StackWatch.Proofs.Resolving
import StackWatch.Proofs.Nesting
import StackWatch.Proofs.Indexing
import StackWatch.Proofs.Furnishing
import StackWatch.Proofs.Limits
import StackWatch.Proofs.Trimming
import StackWatch.Proofs.Wire
import StackWatch.Proofs.Addressing
import StackWatch.Proofs.Decoding
import StackWatch.Proofs.Numerals
import StackWatch.Proofs.Leaves
import StackWatch.Proofs.Keys
import StackWatch.Proofs.Roundtrip
import StackWatch.Proofs.Gate
import StackWatch.Proofs.Options
import StackWatch.Proofs.Additive
import StackWatch.Proofs.Joining
import StackWatch.Proofs.Omitting
