import MissionControl.Proofs.ActionClassification
import MissionControl.Proofs.ApprovalDigests
import MissionControl.Proofs.ArchiveRoundTrip
import MissionControl.Proofs.AttentionDerivation
import MissionControl.Proofs.AttentionOrder
import MissionControl.Proofs.BackupRegistry
import MissionControl.Proofs.CivilCalendar
import MissionControl.Proofs.ClassificationResolution
import MissionControl.Proofs.CommonPasswords
import MissionControl.Proofs.DecisionAdmission
import MissionControl.Proofs.DecisionAtomicity
import MissionControl.Proofs.DeliveryInvariant
import MissionControl.Proofs.DeliveryReplay
import MissionControl.Proofs.DisposableCache
import MissionControl.Proofs.EvidenceFiles
import MissionControl.Proofs.EvidenceReplay
import MissionControl.Proofs.ExactApproval
import MissionControl.Proofs.FinishedWork
import MissionControl.Proofs.HostAuditLog
import MissionControl.Proofs.IssueHistory
import MissionControl.Proofs.IssueLifecycle
import MissionControl.Proofs.ObsidianLaunch
import MissionControl.Proofs.PortfolioReplay
import MissionControl.Proofs.PortfolioRestart
import MissionControl.Proofs.Preparation
import MissionControl.Proofs.ProjectionDiff
import MissionControl.Proofs.QueuedPresentation
import MissionControl.Proofs.RemovalDigest
import MissionControl.Proofs.Replay
import MissionControl.Proofs.RestoreApproval
import MissionControl.Proofs.RestorePreview
import MissionControl.Proofs.RiskRestart
import MissionControl.Proofs.SampleReset
import MissionControl.Proofs.StagedArtifacts
import MissionControl.Proofs.Staleness
import MissionControl.Proofs.SupersessionChains
import MissionControl.Proofs.SurfaceClassification
import MissionControl.Proofs.VaultContainment
import MissionControl.Proofs.VaultRootTruth
import MissionControl.Proofs.Versions
