import ComputeContext.Act
import ComputeContext.Proofs.Roster
import ComputeContext.Proofs.Svm.OneAddress
import ComputeContext.Proofs.Svm.Rollback
import ComputeContext.Settings.File
import ComputeContext.Simulation.Session
import ComputeContext.Proofs.Context.SharedMemory
import ComputeContext.Proofs.Interop.Bindings
import ComputeContext.Proofs.Context.Operation
import ComputeContext.Proofs.Context.Attachment
import ComputeContext.Proofs.Context.Custody
import ComputeContext.Proofs.Property.Draft
import ComputeContext.Proofs.Property.Agreement
import ComputeContext.Proofs.Context.Farewell
import ComputeContext.Proofs.Property.Wire
import ComputeContext.Proofs.Context.Creation
import ComputeContext.Proofs.Context.Success
import ComputeContext.Proofs.Context.FirstAsked
import ComputeContext.Proofs.Svm.Holding
import ComputeContext.Proofs.Context.Freeing
import ComputeContext.Proofs.Svm.Mirroring
import ComputeContext.Proofs.Svm.Preference
import ComputeContext.Proofs.Context.Library
import ComputeContext.Proofs.QueueLedger.Capacity
import ComputeContext.Proofs.QueueLedger.LiveQueues
import ComputeContext.Proofs.QueueLedger.Refusal
import ComputeContext.Proofs.Host.Pool
import ComputeContext.Proofs.Interop.Acceptance
import ComputeContext.Proofs.Interop.Balance
import ComputeContext.Proofs.Context.Stages
import ComputeContext.Proofs.Context.Retry
import ComputeContext.Proofs.Property.Refusal
import ComputeContext.Proofs.Property.Breaking
import ComputeContext.Proofs.Property.Forms
import ComputeContext.Proofs.Host.Alignment
import ComputeContext.Proofs.Settings.Overlay
import ComputeContext.Proofs.Settings.Layers
import ComputeContext.Proofs.Simulation.Landing
import ComputeContext.Proofs.Simulation.Spacing
import ComputeContext.Proofs.Text.Lowercase
import ComputeContext.Proofs.Settings.PolicyWord
