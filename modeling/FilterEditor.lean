import FilterEditor.CommandLine
import FilterEditor.LogLevel
import FilterEditor.Main
import FilterEditor.Proofs.LastRequest
import FilterEditor.Proofs.Clearance
import FilterEditor.Proofs.Progress
import FilterEditor.Proofs.Convergence
import FilterEditor.Proofs.Debounce
import FilterEditor.Proofs.LateCalls
import FilterEditor.Proofs.Resolutions
import FilterEditor.Proofs.Interference
import FilterEditor.Proofs.Agreement
import FilterEditor.Proofs.Unframing
import FilterEditor.Proofs.RoundTrips
import FilterEditor.Proofs.Reporting
import FilterEditor.Proofs.Display
import FilterEditor.Proofs.Clause
import FilterEditor.Proofs.BareMessages
import FilterEditor.Proofs.Expectations
import FilterEditor.Proofs.Innermost
import FilterEditor.Proofs.Selectors
import FilterEditor.Proofs.Enrichment
import FilterEditor.Proofs.Acceptance
import FilterEditor.Proofs.Scripts
import FilterEditor.Proofs.Enumeration
