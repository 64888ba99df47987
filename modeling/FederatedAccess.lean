import FederatedAccess.Component
import FederatedAccess.Description
import FederatedAccess.Policy.Specifier
import FederatedAccess.Proofs.Binding
import FederatedAccess.Proofs.Carriers
import FederatedAccess.Proofs.Catalog
import FederatedAccess.Proofs.Component.Agreement
import FederatedAccess.Proofs.Component.Calls
import FederatedAccess.Proofs.Component.Course
import FederatedAccess.Proofs.Component.Grants
import FederatedAccess.Proofs.Component.Lifecycle
import FederatedAccess.Proofs.Component.RequestStatus
import FederatedAccess.Proofs.Component.StatusCache
import FederatedAccess.Proofs.Component.TrustChain
import FederatedAccess.Proofs.Component.ValidPart
import FederatedAccess.Proofs.Configuration
import FederatedAccess.Proofs.Duration
import FederatedAccess.Proofs.Duration.Reading
import FederatedAccess.Proofs.Duration.Terms
import FederatedAccess.Proofs.Encoding.Base64
import FederatedAccess.Proofs.Encoding.Canonical
import FederatedAccess.Proofs.Encoding.Hex
import FederatedAccess.Proofs.Exchange
import FederatedAccess.Proofs.Freshness
import FederatedAccess.Proofs.Honest
import FederatedAccess.Proofs.Json.Draft
import FederatedAccess.Proofs.Json.Field
import FederatedAccess.Proofs.Json.Number
import FederatedAccess.Proofs.Json.Object
import FederatedAccess.Proofs.Json.Record
import FederatedAccess.Proofs.Json.Room
import FederatedAccess.Proofs.Json.Text
import FederatedAccess.Proofs.Json.Value
import FederatedAccess.Proofs.Key.Certificate
import FederatedAccess.Proofs.Key.Document
import FederatedAccess.Proofs.Key.WireForm
import FederatedAccess.Proofs.Number.Decimal
import FederatedAccess.Proofs.Number.Numeral
import FederatedAccess.Proofs.Number.Value
import FederatedAccess.Proofs.Pattern.Anchored
import FederatedAccess.Proofs.Pattern.Closing
import FederatedAccess.Proofs.Pattern.Closing.Bracket
import FederatedAccess.Proofs.Pattern.Closing.Escape
import FederatedAccess.Proofs.Pattern.Closing.Group
import FederatedAccess.Proofs.Pattern.Matching
import FederatedAccess.Proofs.Policy.Exactness
import FederatedAccess.Proofs.Policy.Federation
import FederatedAccess.Proofs.Policy.Resolution
import FederatedAccess.Proofs.Policy.Specifier
import FederatedAccess.Proofs.Policy.Spelling
import FederatedAccess.Proofs.Possession
import FederatedAccess.Proofs.Results
import FederatedAccess.Proofs.Rule.Caseless
import FederatedAccess.Proofs.Rule.Meaning
import FederatedAccess.Proofs.Rule.Numbers
import FederatedAccess.Proofs.Rule.Patterns
import FederatedAccess.Proofs.Rule.Positive
import FederatedAccess.Proofs.Rule.Rearranged
import FederatedAccess.Proofs.Rule.Steady
import FederatedAccess.Proofs.Rule.WholeValue
import FederatedAccess.Proofs.Rule.WireForm
import FederatedAccess.Proofs.Sha2
import FederatedAccess.Proofs.Text.Lowercase
import FederatedAccess.Proofs.Text.Utf8
import FederatedAccess.Proofs.Time
import FederatedAccess.Proofs.Token.Accepted
import FederatedAccess.Proofs.Token.Body
import FederatedAccess.Proofs.Token.Compact
import FederatedAccess.Proofs.Token.Issuing
import FederatedAccess.Proofs.Token.Partition
import FederatedAccess.Proofs.Token.RoundTrip
import FederatedAccess.Proofs.Token.Sorting
import FederatedAccess.Proofs.Token.Status
import FederatedAccess.Proofs.Token.Validity
import FederatedAccess.Proofs.Transport
import FederatedAccess.Proofs.Wallet.Change
import FederatedAccess.Proofs.Wallet.ForeignLogin
import FederatedAccess.Proofs.Wallet.Provenance
import FederatedAccess.Proofs.WireModels
