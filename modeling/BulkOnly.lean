import BulkOnly.Bytes
import BulkOnly.Pipe
import BulkOnly.Setup
import BulkOnly.Text.Number
import BulkOnly.Wrapper.Command
import BulkOnly.Wrapper.Status
import BulkOnly.Scsi.Outcome
import BulkOnly.Scsi.Sense
import BulkOnly.Urb
import BulkOnly.Urb.Queue
import BulkOnly.Journal.Complaint
import BulkOnly.Journal.Event
import BulkOnly.Journal.Limiter
import BulkOnly.Command
import BulkOnly.Descriptors
import BulkOnly.Device
import BulkOnly.Device.BulkIn
import BulkOnly.Device.BulkOut
import BulkOnly.Control
import BulkOnly.Device.Control
import BulkOnly.Device.Completion
import BulkOnly.SavedState
import BulkOnly.System
import BulkOnly.Proofs.Frame
import BulkOnly.Proofs.Run
import BulkOnly.Proofs.Transfers
import BulkOnly.Proofs.Conservation
import BulkOnly.Proofs.Reset
import BulkOnly.Proofs.Handover
import BulkOnly.Proofs.Conclusion
import BulkOnly.Proofs.Quiet
import BulkOnly.Proofs.Ownership
import BulkOnly.Proofs.Alike
import BulkOnly.Proofs.Lockstep
import BulkOnly.Proofs.Isolation
import BulkOnly.Proofs.Soundness
import BulkOnly.Proofs.Transparency
import BulkOnly.Proofs.Parking
import BulkOnly.Proofs.Access
import BulkOnly.Proofs.Checked
import BulkOnly.Proofs.Safety
import BulkOnly.Proofs.History
import BulkOnly.Proofs.Delivery
import BulkOnly.Proofs.Agreement
import BulkOnly.Proofs.Bookkeeping
import BulkOnly.Proofs.Alternation
import BulkOnly.Proofs.Accounting
import BulkOnly.Proofs.Unseen
import BulkOnly.Proofs.Requests
import BulkOnly.Proofs.Unnoticed
import BulkOnly.Proofs.Past
import BulkOnly.Proofs.ParkedReads
import BulkOnly.Proofs.LateEnds
import BulkOnly.Proofs.RetainedSense
import BulkOnly.Proofs.RequestSense
import BulkOnly.Proofs.Stall
import BulkOnly.Proofs.Halts
import BulkOnly.Proofs.Restart
import BulkOnly.Proofs.Deferral
import BulkOnly.Proofs.ParkedOrder
import BulkOnly.Proofs.Returned
import BulkOnly.Proofs.MoreParked
import BulkOnly.Proofs.Cancellation
import BulkOnly.Proofs.Filling
import BulkOnly.Proofs.Writing
import BulkOnly.Proofs.EarlyStatus
import BulkOnly.Proofs.Moments
import BulkOnly.Proofs.Steps
import BulkOnly.Proofs.Submissions
import BulkOnly.Proofs.ReadPhase
import BulkOnly.Proofs.Grammar
import BulkOnly.Proofs.Directions
import BulkOnly.Proofs.Encodings
import BulkOnly.Proofs.ControlEffects
import BulkOnly.Proofs.Hooks
import BulkOnly.Proofs.Buffers
import BulkOnly.Proofs.Issues
import BulkOnly.Proofs.Counts
import BulkOnly.Proofs.AtOnce
import BulkOnly.Proofs.ControlTraffic
import BulkOnly.Proofs.Verdicts
import BulkOnly.Proofs.Warnings
