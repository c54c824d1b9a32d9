import Splitch.Library.Runs
import Splitch.Library.Paging
import Splitch.Redemption.SingleRedemption
import Splitch.Redemption.SweepCoverage
import Splitch.Redemption.ExactlyOnce
import Splitch.Assignment.ReadModel
import Splitch.Holdover.OutboxCutoff
import Splitch.Holdover.OutboxOwnership
import Splitch.Inventory.RecoveryOwner
import Splitch.Reset.ResetCoverage
import Splitch.Evaluation.UsageAgreement
import Splitch.Metrics.DeletionProof
import Splitch.Identity.ResetResumption
import Splitch.Cloudflare.SnapshotVersions
import Splitch.Cloudflare.ExposureOutbox
import Splitch.Convex.InstallRepair
import Splitch.Privacy.DeletionCompletion
import Splitch.DemoClaim.ClaimTransfer
import Splitch.CloudflarePush.DeliverySettlement
import Splitch.Evaluator.RolloutRamp
import Splitch.Evaluator.ExposureConsistency
import Splitch.Stats.ShipSoundness
import Splitch.ConfigStore.EnvironmentTeardown
import Splitch.Ingest.NdjsonBatches
import Splitch.Ingest.IngestAdmission
import Splitch.RequestBody.BoundedBody
import Splitch.Stats.SrmAppendOnly
import Splitch.ConfigStore.RolloutDirection
import Splitch.Ingest.DeliveryResetLock
import Splitch.Ingest.ResetSections
import Splitch.Ingest.ResetLockRuns
import Splitch.Library.JsonText
import Splitch.Sdk.ExposureSuppression
import Splitch.Redemption.TicketRoundTrip
import Splitch.Evaluation.ConditionalHit
import Splitch.Stats.FamilyStepUp
import Splitch.Sdk.QueueProgress
import Splitch.Sdk.BrowserClient
import Splitch.Sdk.ClientInvariants
import Splitch.Sdk.PayloadChanges
import Splitch.Sdk.ClientRuns
