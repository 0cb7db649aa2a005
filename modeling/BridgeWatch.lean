import BridgeWatch.MmrProver
import BridgeWatch.MerkleProofs
import BridgeWatch.TransparencyLog
import BridgeWatch.SignerQuorum
import BridgeWatch.PauseHalt
import BridgeWatch.SourceTrust
import BridgeWatch.Deregistration
import BridgeWatch.CheckpointPanics
import BridgeWatch.RoleTables
import BridgeWatch.AclGrants
import BridgeWatch.OracleQuorum
import BridgeWatch.OracleStaleness
import BridgeWatch.UpgradeQuorum
import BridgeWatch.BftOracleRobustness
import BridgeWatch.TransferAttestations
import BridgeWatch.WorkerLeases
import BridgeWatch.IngestionWatermarks
import BridgeWatch.OutboxDelivery
import BridgeWatch.BatchPlans
import BridgeWatch.BatchReconciliation
import BridgeWatch.HotColdMigration
import BridgeWatch.RpcConsensus
import BridgeWatch.TransferRollback
import BridgeWatch.TreasuryQuorum
import BridgeWatch.EscrowDisputes
import BridgeWatch.RelayQueue
import BridgeWatch.RelayBatches
import BridgeWatch.InsuranceQueue
import BridgeWatch.InsuranceEpochs
import BridgeWatch.InsurancePremiums
import BridgeWatch.GovernanceVotes
import BridgeWatch.GovernanceGuardians
import BridgeWatch.SubmissionReplay
import BridgeWatch.RecoveryQuorum
import BridgeWatch.EmergencyQuorum
import BridgeWatch.SymbolNamespace
import BridgeWatch.RegistryIndex
import BridgeWatch.ReserveProofs
import BridgeWatch.OperatorSuspension
import BridgeWatch.ZkAttestations
import BridgeWatch.SectionMetadata
import BridgeWatch.BundleConstruction
import BridgeWatch.CanonicalEquality
import BridgeWatch.CheckpointDigest
import BridgeWatch.Leaderboards
import BridgeWatch.StateExport
import BridgeWatch.DeviationAlarms
import BridgeWatch.SpotScreening
import BridgeWatch.ConfigAudit
import BridgeWatch.ReplayPaging
import BridgeWatch.HealthAggregation
import BridgeWatch.AmountNormalization
import BridgeWatch.VolumeCap
import BridgeWatch.RelayCleanup
import BridgeWatch.VestingSchedules
import BridgeWatch.AccountStrkeys
import BridgeWatch.OverLimit
