import SmarTune.Affinity.FailedRequests
import SmarTune.Balancer.AutoMerge
import SmarTune.Balancer.CrashSafety
import SmarTune.Balancer.DiskFilter
import SmarTune.Balancer.LockAll
import SmarTune.Balancer.PeakLatch
import SmarTune.Balancer.ReclaimRound
import SmarTune.Balancer.Relaxation
import SmarTune.Balancer.RestoreVerdict
import SmarTune.Benchmark.Aggregation
import SmarTune.Benchmark.HandOver
import SmarTune.Benchmark.JobManager
import SmarTune.Benchmark.LogStream
import SmarTune.Benchmark.ResultsDeletion
import SmarTune.Benchmark.ResultsJobs
import SmarTune.Benchmark.RunScripts
import SmarTune.Config.Reload
import SmarTune.Controller.ManualReclaim
import SmarTune.Controller.ReleaseSafety
import SmarTune.Controller.ShrinkTimer
import SmarTune.Controller.StartupThaw
import SmarTune.Controller.SwapCaps
import SmarTune.Controller.SwapNames
import SmarTune.Controller.SwapWindow
import SmarTune.Diagnostics.AlertHistory
import SmarTune.Diagnostics.AlertIdentity
import SmarTune.Diagnostics.AlertIsolation
import SmarTune.Diagnostics.AlertThrottle
import SmarTune.Diagnostics.AlertWindow
import SmarTune.Diagnostics.DetectorCompleteness
import SmarTune.Diagnostics.FingerprintRuns
import SmarTune.Diagnostics.LedgerCompleteness
import SmarTune.Diagnostics.LifecycleOrder
import SmarTune.Diagnostics.PressureEpisodes
import SmarTune.Diagnostics.Reconciliation
import SmarTune.Diagnostics.Retention
import SmarTune.Identity.DiscoveryAgreement
import SmarTune.Identity.DisjointIdentities
import SmarTune.Identity.LiveLimits
import SmarTune.Identity.Registration
import SmarTune.Intercept.LifecycleRuns
import SmarTune.Intercept.QueueRuns
import SmarTune.Intercept.SuspendedRuns
import SmarTune.Monitor.BatchOwnership
import SmarTune.Monitor.Candidates
import SmarTune.Monitor.CgroupIo
import SmarTune.Monitor.ConfigConflicts
import SmarTune.Monitor.CriticalApps
import SmarTune.Monitor.DiskAggregate
import SmarTune.Monitor.LevelHysteresis
import SmarTune.Monitor.PressurePeaks
import SmarTune.Monitor.Recap
import SmarTune.Monitor.SelfInflicted
import SmarTune.Monitor.StagedRestore
import SmarTune.Monitor.StrictestFloor
import SmarTune.Network.Priorities
import SmarTune.Network.Smoothing
import SmarTune.Network.Stages
import SmarTune.Network.Undo
import SmarTune.Network.WindowRates
import SmarTune.Oom.OomRuns
import SmarTune.Quiet.DataQuality
import SmarTune.Storage.SnapshotCoherence
import SmarTune.Threads.Deferred
import SmarTune.Threads.Shutdown
