import AuthGate.Database.Deployment
import AuthGate.Memory.Scenario
import AuthGate.Proofs.Json.RoundTrip
import AuthGate.Proofs.Text.Base64
import AuthGate.Proofs.Text.Utf8
import AuthGate.Schema
import AuthGate.Proofs.Json.Shown
import AuthGate.Proofs.Token.Segments
import AuthGate.Proofs.Token.Signed
import AuthGate.Proofs.Token.Acceptance
import AuthGate.Proofs.Memory
import AuthGate.Proofs.Token.Issue
import AuthGate.Proofs.Session.Refresh
import AuthGate.Proofs.Session.Consumption
import AuthGate.Proofs.Session.Interleaving
import AuthGate.Proofs.Token.Window
import AuthGate.Proofs.Password
import AuthGate.Proofs.Session.Login
import AuthGate.Proofs.Service.Answer
import AuthGate.Proofs.Service.Authentication
import AuthGate.Proofs.Service.Authorization
import AuthGate.Proofs.Service.Gate
import AuthGate.Proofs.Service.Screening
import AuthGate.Proofs.Service.Confirmed
import AuthGate.Proofs.Service.Audience
import AuthGate.Proofs.Service.Discretion
import AuthGate.Proofs.Service.Chains
import AuthGate.Proofs.Failure
import AuthGate.Proofs.Log
import AuthGate.Proofs.Service.Terms
import AuthGate.Proofs.Service.Envelope
import AuthGate.Proofs.Service.Answered
import AuthGate.Proofs.Parallel
import AuthGate.Proofs.Service.Privacy
import AuthGate.Proofs.Database.Deployment
import AuthGate.Proofs.Database.Rotation
import AuthGate.Proofs.Database.Renewal
import AuthGate.Proofs.Log.Address
import AuthGate.Proofs.Service.Exposure
import AuthGate.Proofs.Token.Alteration
import AuthGate.Proofs.Token.Precedence
import AuthGate.Proofs.Database.Validated
import AuthGate.Proofs.Service.Verdict
import AuthGate.Proofs.Service.Canonical
import AuthGate.Proofs.Database.Discipline
import AuthGate.Proofs.Service.Refusal
import AuthGate.Proofs.Service.Encoded
import AuthGate.Proofs.Request.Email
import AuthGate.Proofs.Request.Body
import AuthGate.Proofs.Log.Context
import AuthGate.Proofs.Log.Preview
import AuthGate.Proofs.Log.Note
import AuthGate.Proofs.Lifetime
import AuthGate.Proofs.Token.Compact
