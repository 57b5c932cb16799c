import Clearance.Config.Loader
import Clearance.Document.Policy
import Clearance.Document.Request
import Clearance.Document.Settings
import Clearance.Document.Toml
import Clearance.Json.Reader
import Clearance.Json.Writer
import Clearance.Trial.Chain
import Clearance.Trial.Containment
import Clearance.Trial.Masking
import Clearance.Proofs.Deciding.FirstMatch
import Clearance.Proofs.Deciding.Fallback
import Clearance.Proofs.Deciding.DecisionLog
import Clearance.Proofs.Deciding.PlainRules
import Clearance.Proofs.Path.Location
import Clearance.Proofs.Path.Overwriting
import Clearance.Proofs.Path.Parting
import Clearance.Proofs.Path.OnePlace
import Clearance.Proofs.Masking.Replacement
import Clearance.Proofs.Masking.Application
import Clearance.Proofs.Masking.AllOrNothing
import Clearance.Proofs.Masking.Removal
import Clearance.Proofs.Masking.Commutation
import Clearance.Proofs.Masking.FailClosed
import Clearance.Proofs.Masking.Noninterference
import Clearance.Proofs.Masking.Frame
import Clearance.Proofs.Document.RoundTrip
import Clearance.Proofs.Document.Spelling
import Clearance.Proofs.Document.Requests
import Clearance.Proofs.Toml.Lines
import Clearance.Proofs.Toml.Rendering
import Clearance.Proofs.Config.Rendered
import Clearance.Proofs.Config.Loading
import Clearance.Proofs.Config.Precedence
import Clearance.Proofs.Containment.Equality
import Clearance.Proofs.Containment.Membership
import Clearance.Proofs.Containment.Trials
import Clearance.Proofs.Containment.Documents
import Clearance.Proofs.Deciding.Composition
import Clearance.Proofs.Masking.Remainder
import Clearance.Proofs.Masking.Disclosure
import Clearance.Proofs.Masking.Address
import Clearance.Proofs.Masking.Cutting
import Clearance.Proofs.Masking.Remasking
import Clearance.Proofs.Config.Validation
import Clearance.Proofs.Config.NameVariable
import Clearance.Proofs.Number.Numerals
import Clearance.Proofs.Path.Indexing
import Clearance.Proofs.Masking.Digests
