import Provisioning.Console.Rehearsal
import Provisioning.Main
import Provisioning.Proofs.Catalog.Freshness
import Provisioning.Proofs.Catalog.Invalidation
import Provisioning.Proofs.Catalog.Ordering
import Provisioning.Proofs.Catalog.Retrying
import Provisioning.Proofs.Catalog.SingleFlight
import Provisioning.Proofs.Concurrent.Isolation
import Provisioning.Proofs.Config.Saving
import Provisioning.Proofs.Console.Kinds
import Provisioning.Proofs.Creation.Acceptance
import Provisioning.Proofs.Creation.NodeIds
import Provisioning.Proofs.Creation.Outcome
import Provisioning.Proofs.Creation.Selection
import Provisioning.Proofs.Creation.Stages
import Provisioning.Proofs.Destruction.Outcome
import Provisioning.Proofs.Destruction.Stages
import Provisioning.Proofs.Node.Groups
import Provisioning.Proofs.Status.Recognition
import Provisioning.Proofs.Status.Spellings
import Provisioning.Proofs.Transaction.Story
import Provisioning.Proofs.Transaction.Tracking
import Provisioning.Proofs.Vendor.Delays
import Provisioning.Proofs.Vendor.Lifecycle
import Provisioning.Proofs.Vendor.Replay
import Provisioning.Proofs.Vendor.Uniqueness
import Provisioning.Proofs.Vendor.Vocabulary
import Provisioning.Proofs.Workflow.Conditions
import Provisioning.Proofs.Workflow.Pauses
import Provisioning.Proofs.Workflow.Trials
import Provisioning.Rehearsal.Play
