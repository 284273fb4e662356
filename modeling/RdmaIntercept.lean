import RdmaIntercept.Library.Runs
import RdmaIntercept.Library.SlotTable
import RdmaIntercept.Library.SlotMap
import RdmaIntercept.Library.Unwinding
import RdmaIntercept.Library.InFlight
import RdmaIntercept.Model.TenantShm
import RdmaIntercept.Model.Hooks
import RdmaIntercept.Model.World
import RdmaIntercept.Model.Interleaving
import RdmaIntercept.Model.StoreRuns
import RdmaIntercept.Analysis.TenantShmSpec
import RdmaIntercept.Analysis.HookSpec
import RdmaIntercept.Analysis.WorldSpec
import RdmaIntercept.Analysis.HotQuota
import RdmaIntercept.Analysis.MemoryQuota
import RdmaIntercept.Analysis.MovingProcesses
import RdmaIntercept.Analysis.StatusChange
import RdmaIntercept.Analysis.SharedMemorySpec
import RdmaIntercept.Analysis.GlobalLimit
import RdmaIntercept.Analysis.Attaching
import RdmaIntercept.Analysis.ProcessExit
import RdmaIntercept.Analysis.InterleavingSpec
import RdmaIntercept.Analysis.SerialCalls
import RdmaIntercept.Analysis.ConcurrentAccounting
import RdmaIntercept.Analysis.ConcurrentQuota
import RdmaIntercept.Analysis.StoreSpec
import RdmaIntercept.Analysis.BindingTable
import RdmaIntercept.Analysis.TenantLifecycle
import RdmaIntercept.Analysis.ProcessAccounting
import RdmaIntercept.Analysis.TenantIsolation
import RdmaIntercept.Library.WriteBuffer
import RdmaIntercept.Model.PerfOptimizer
import RdmaIntercept.Library.SlotStore
import RdmaIntercept.Analysis.BatchedUpdates
import RdmaIntercept.Analysis.BatchSwitching
import RdmaIntercept.Model.BatchThreads
import RdmaIntercept.Analysis.ConcurrentBatching
import RdmaIntercept.Analysis.VerbsSpec
import RdmaIntercept.Analysis.Transparency
import RdmaIntercept.Analysis.BaseComparison
import RdmaIntercept.Analysis.ConfiguredTenant
import RdmaIntercept.Analysis.AdmissionAgreement
import RdmaIntercept.Analysis.ProcessTable
import RdmaIntercept.Analysis.ProcessTotal
import RdmaIntercept.Model.ResourceCache
import RdmaIntercept.Analysis.CacheHits
import RdmaIntercept.Analysis.FastCheck
import RdmaIntercept.Library.CText
import RdmaIntercept.Model.CollectorClient
import RdmaIntercept.Analysis.CollectorProtocol
import RdmaIntercept.Analysis.CollectorLedger
import RdmaIntercept.Library.Mutex
import RdmaIntercept.Model.DynamicPolicy
import RdmaIntercept.Analysis.PolicyLocks
import RdmaIntercept.Analysis.PolicyLimits
import RdmaIntercept.Model.Config
import RdmaIntercept.Analysis.ConfigPrecedence
import RdmaIntercept.Analysis.PolicyCheck
import RdmaIntercept.Analysis.PolicyFile
import RdmaIntercept.Analysis.CollectorMirror
import RdmaIntercept.Analysis.ConfigLines
import RdmaIntercept.Analysis.NumericSettings
import RdmaIntercept.Library.Json
import RdmaIntercept.Model.TenantDaemon
import RdmaIntercept.Analysis.DaemonAnswers
import RdmaIntercept.Analysis.FailedCalls
import RdmaIntercept.Analysis.InfoSnapshot
import RdmaIntercept.Model.TenantClient
import RdmaIntercept.Analysis.ListTenants
import RdmaIntercept.Library.FileTable
import RdmaIntercept.Model.Logger
import RdmaIntercept.Analysis.LoggerHandles
import RdmaIntercept.Analysis.LocalLedger
import RdmaIntercept.Analysis.ConsecutivePids
import RdmaIntercept.Analysis.ChangeMarkers
import RdmaIntercept.Library.SpinLock
import RdmaIntercept.Model.SegmentAccesses
import RdmaIntercept.Analysis.SegmentSections
import RdmaIntercept.Analysis.SegmentLookups
import RdmaIntercept.Library.RacyCounter
import RdmaIntercept.Model.TenantAccesses
import RdmaIntercept.Analysis.TenantSections
import RdmaIntercept.Library.SlotFill
import RdmaIntercept.Model.SegmentCollector
import RdmaIntercept.Analysis.SegmentCollector
import RdmaIntercept.Model.CollectedRuns
import RdmaIntercept.Library.StaleLimit
import RdmaIntercept.Analysis.CopiedUsage
import RdmaIntercept.Model.BaseVerbs
import RdmaIntercept.Analysis.BaseLedger
import RdmaIntercept.Analysis.BasePublication
import RdmaIntercept.Model.CacheAccesses
import RdmaIntercept.Analysis.CacheSections
import RdmaIntercept.Model.TenantCommands
import RdmaIntercept.Analysis.RemoteAdministration
import RdmaIntercept.Model.OptimizerRuns
import RdmaIntercept.Analysis.DirectHits
import RdmaIntercept.Model.TenantTool
import RdmaIntercept.Analysis.ToolRuns
