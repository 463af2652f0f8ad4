import GuardedCache.Admin
import GuardedCache.Circuit.Job
import GuardedCache.Proofs.Admin.Listing
import GuardedCache.Proofs.Admin.Reset
import GuardedCache.Proofs.Circuit.Admission
import GuardedCache.Proofs.Circuit.Conservation
import GuardedCache.Proofs.Circuit.Decision
import GuardedCache.Proofs.Circuit.Faults
import GuardedCache.Proofs.Circuit.Gauges
import GuardedCache.Proofs.Circuit.Independence
import GuardedCache.Proofs.Circuit.Looks
import GuardedCache.Proofs.Circuit.Notices
import GuardedCache.Proofs.Circuit.Opening
import GuardedCache.Proofs.Circuit.Overflow
import GuardedCache.Proofs.Circuit.Probes
import GuardedCache.Proofs.Circuit.Recovery
import GuardedCache.Proofs.Circuit.Registration
import GuardedCache.Proofs.Circuit.Renewal
import GuardedCache.Proofs.Circuit.Rounding
import GuardedCache.Proofs.Circuit.Staleness
import GuardedCache.Proofs.Circuit.Timing
import GuardedCache.Proofs.Http.Form
import GuardedCache.Proofs.Json.RoundTrip
import GuardedCache.Proofs.Protected.Causes
import GuardedCache.Proofs.Protected.Outage
import GuardedCache.Proofs.Protected.Together
import GuardedCache.Proofs.Protected.Traffic
import GuardedCache.Proofs.Protected.Transparency
import GuardedCache.Proofs.Service.Protection
import GuardedCache.Proofs.Settings.Layers
import GuardedCache.Proofs.Settings.Loading
import GuardedCache.Proofs.Settings.Validation
import GuardedCache.Proofs.Store.Agreement
import GuardedCache.Proofs.Text.Decimal
import GuardedCache.Proofs.Text.Utf8
import GuardedCache.Proofs.Time.RoundTrip
import GuardedCache.Service
import GuardedCache.Session
