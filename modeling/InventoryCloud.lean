import InventoryCloud.InterferenceFreedom
import InventoryCloud.LockTable
import InventoryCloud.ServiceStability
import InventoryCloud.BusinessCounters
import InventoryCloud.SingleCalls
import InventoryCloud.CancellationFinality
import InventoryCloud.CancellationClocks
import InventoryCloud.Linearization
import InventoryCloud.IdempotencyKeys
import InventoryCloud.CustomerIsolation
import InventoryCloud.DeadlockFreedom
import InventoryCloud.CallCompletion
import InventoryCloud.RunningMoments
import InventoryCloud.CallRefusals
import InventoryCloud.StockContention
import InventoryCloud.AdvisoryLocks
import InventoryCloud.DuplicateSkus
import InventoryCloud.ProductConstraints
import InventoryCloud.SkuNormalization
import InventoryCloud.DomainCalls
import InventoryCloud.PagingWalks
import InventoryCloud.ReleaseGate
import InventoryCloud.DeploySafety
import InventoryCloud.MigrationSafety
import InventoryCloud.RegionPin
import InventoryCloud.ContractDocuments
import InventoryCloud.ContractContainers
import InventoryCloud.PreflightRefinement
import InventoryCloud.PlaceholderHosts
import InventoryCloud.CertificateNames
import InventoryCloud.MetadataVerification
import InventoryCloud.SecurityGate
import InventoryCloud.RuntimeMemberships
import InventoryCloud.DrillReadiness
import InventoryCloud.DrillCleanup
import InventoryCloud.ReceiverEvents
import InventoryCloud.RequestAuthorization
import InventoryCloud.ScanSafety
import InventoryCloud.ReplicaDrillChecks
