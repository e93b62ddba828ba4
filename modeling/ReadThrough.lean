import ReadThrough.Assembly
import ReadThrough.Decimal.Exact
import ReadThrough.Diagnostics
import ReadThrough.Fault.Described
import ReadThrough.Fault.Report
import ReadThrough.Proofs.Probe
import ReadThrough.Proofs.Purge
import ReadThrough.Rehearsal.Cache
import ReadThrough.Rehearsal.Call
import ReadThrough.Settings.Source
import ReadThrough.Proofs.Fence
import ReadThrough.Proofs.Scan
import ReadThrough.Proofs.Screened
import ReadThrough.Proofs.Delivery
import ReadThrough.Proofs.Freshness
import ReadThrough.Proofs.Overlay
import ReadThrough.Proofs.Variables
import ReadThrough.Proofs.Leaves
import ReadThrough.Proofs.Layers
import ReadThrough.Proofs.Versions
import ReadThrough.Proofs.Gatekeeper
import ReadThrough.Proofs.Tally
import ReadThrough.Proofs.Failures
import ReadThrough.Proofs.Twin
import ReadThrough.Proofs.Seen
import ReadThrough.Proofs.Unseen
import ReadThrough.Proofs.Astray
import ReadThrough.Proofs.Leaving
import ReadThrough.Proofs.Reading
import ReadThrough.Proofs.Sources
import ReadThrough.Proofs.Renewal
import ReadThrough.Proofs.Stranded
import ReadThrough.Proofs.Joiners
import ReadThrough.Proofs.Traffic
import ReadThrough.Proofs.Lockout
import ReadThrough.Proofs.Ordered
import ReadThrough.Proofs.Shut
import ReadThrough.Proofs.Verdict
import ReadThrough.Proofs.Exact
import ReadThrough.Proofs.LastWrite
import ReadThrough.Proofs.Apart
import ReadThrough.Proofs.Surface
import ReadThrough.Proofs.Window
import ReadThrough.Proofs.Trail
import ReadThrough.Proofs.Inventory
import ReadThrough.Proofs.Records
import ReadThrough.Proofs.Gauges
import ReadThrough.Proofs.Lookups
import ReadThrough.Proofs.Canonical
import ReadThrough.Proofs.Foremost
import ReadThrough.Proofs.Standing
import ReadThrough.Proofs.Eviction
import ReadThrough.Proofs.Writing
import ReadThrough.Proofs.Torn
import ReadThrough.Proofs.Positive
import ReadThrough.Proofs.Lasting
import ReadThrough.Proofs.Sweeps
import ReadThrough.Proofs.Tripping
import ReadThrough.Proofs.Recovery
import ReadThrough.Proofs.Longest
import ReadThrough.Proofs.Attempts
import ReadThrough.Proofs.Delays
import ReadThrough.Proofs.Wording
import ReadThrough.Proofs.Rates
import ReadThrough.Proofs.Remarks
import ReadThrough.Proofs.Builders
import ReadThrough.Proofs.Entities
