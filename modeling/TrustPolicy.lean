import TrustPolicy.Der.Delimited
import TrustPolicy.Proofs.Lineage
import TrustPolicy.Session.Run
import TrustPolicy.Proofs.Walks
import TrustPolicy.Proofs.Forest
import TrustPolicy.Proofs.Reparenting
import TrustPolicy.Proofs.Resolution
import TrustPolicy.Proofs.Aggregation
import TrustPolicy.Proofs.Contributions
import TrustPolicy.Proofs.Runs
import TrustPolicy.Proofs.Announcing
import TrustPolicy.Proofs.Requests
import TrustPolicy.Proofs.Calls
import TrustPolicy.Proofs.Epochs
import TrustPolicy.Proofs.SessionCalls
import TrustPolicy.Proofs.Liveness
import TrustPolicy.Proofs.Registrations
import TrustPolicy.Proofs.Notification
import TrustPolicy.Proofs.Failures
import TrustPolicy.Proofs.Refusals
import TrustPolicy.Proofs.Callers
import TrustPolicy.Proofs.InFlight
import TrustPolicy.Proofs.EffectiveValues
import TrustPolicy.Proofs.Locality
import TrustPolicy.Proofs.Managers
import TrustPolicy.Proofs.BuiltPolicies
import TrustPolicy.Proofs.Registry
import TrustPolicy.Proofs.Wiring
import TrustPolicy.Proofs.Views
import TrustPolicy.Proofs.Confinement
import TrustPolicy.Proofs.Families
import TrustPolicy.Proofs.Addresses
import TrustPolicy.Proofs.Owners
import TrustPolicy.Proofs.Observers
import TrustPolicy.Proofs.Handouts
import TrustPolicy.Proofs.OfferedAnchors
import TrustPolicy.Proofs.CertificateEncodings
import TrustPolicy.Proofs.DefaultSlot
import TrustPolicy.Proofs.Base64Forms
import TrustPolicy.Proofs.PinTexts
import TrustPolicy.Proofs.MemoryStores
import TrustPolicy.Proofs.Configurations
import TrustPolicy.Proofs.LastWrites
import TrustPolicy.Proofs.CanonicalPins
import TrustPolicy.Proofs.CellHistories
import TrustPolicy.Proofs.PolicyCells
import TrustPolicy.Proofs.SessionCells
