import SecurityKey.Credential.Store
import SecurityKey.Fingerprint.Client
import SecurityKey.Pin.Authenticator
import SecurityKey.Proofs.Card.Responses
import SecurityKey.Proofs.Cbor.KeyTypes
import SecurityKey.Proofs.Cbor.Refusal
import SecurityKey.Proofs.Credential.Reports
import SecurityKey.Proofs.Fingerprint.Enrollment
import SecurityKey.Proofs.Fingerprint.Templates
import SecurityKey.Proofs.Fingerprint.Timeout
import SecurityKey.Proofs.Hid.Cancellation
import SecurityKey.Proofs.Info
import SecurityKey.Proofs.Interchange
import SecurityKey.Proofs.Parameters
import SecurityKey.Proofs.Pin.Padding
import SecurityKey.Proofs.Pin.Scope
import SecurityKey.Proofs.Separation
import SecurityKey.Proofs.Session.DiagnosedCalls
import SecurityKey.Proofs.Session.Flavor
import SecurityKey.Proofs.Session.Knowledge
import SecurityKey.Proofs.Session.Totals
import SecurityKey.Proofs.U2f.Attestation
import SecurityKey.Proofs.U2f.Certificate
import SecurityKey.Proofs.U2f.Registration
import SecurityKey.Proofs.U2f.Signature
import SecurityKey.Proofs.Wire
import SecurityKey.Settings
