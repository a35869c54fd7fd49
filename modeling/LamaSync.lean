import LamaSync.Lib.Trace
import LamaSync.Lib.Table
import LamaSync.Core.Json
import LamaSync.Core.SeedPhase
import LamaSync.Core.SeedArchive
import LamaSync.Server.Principal
import LamaSync.Server.SeedJobs
import LamaSync.Server.FolderSeed
import LamaSync.Server.SeedRuns
import LamaSync.Server.SeedPhaseMachine
import LamaSync.Server.SeedPilot
import LamaSync.Server.SeedHandover
import LamaSync.Daemon.LeaseSupervisor
import LamaSync.Server.SeedCoordinator
import LamaSync.Server.SeedCompletion
import LamaSync.Server.SeedFencing
import LamaSync.Server.Auth
import LamaSync.Server.AuthBoundary
import LamaSync.Daemon.SeedRunner
import LamaSync.Daemon.SeedRelayLifetime
import LamaSync.Daemon.LeaseAuthority
import LamaSync.Server.ActionQueue
import LamaSync.Lib.Pattern
import LamaSync.Lib.Rows
import LamaSync.Server.MobileStore
import LamaSync.Server.MobileCredentials
import LamaSync.Daemon.SeedRelayS3
import LamaSync.Daemon.SeedTransport
import LamaSync.Lib.Directory
import LamaSync.Lib.Faults
import LamaSync.Server.MobileUploads
import LamaSync.Server.UploadMoves
import LamaSync.Server.UploadTables
import LamaSync.Server.UploadHistory
import LamaSync.Server.UploadContent
import LamaSync.Server.UploadDelivery
import LamaSync.Server.UploadInterleaving
import LamaSync.Server.UploadQuota
import LamaSync.Core.RegExp
import LamaSync.Daemon.Gitignore
import LamaSync.Daemon.SeedFilterUniverse
import LamaSync.Daemon.FilterAgreement
import LamaSync.Daemon.ReportQueue
import LamaSync.Daemon.FolderWatch
import LamaSync.Daemon.LiveProgress
import LamaSync.Daemon.KeyedMutex
import LamaSync.Core.Folders
import LamaSync.Daemon.Scheduler
import LamaSync.Server.SeedCleanup
import LamaSync.Server.Locks
import LamaSync.Daemon.Locks
import LamaSync.Lib.Script
import LamaSync.Daemon.BisyncBaseline
import LamaSync.Daemon.Conflicts
import LamaSync.Daemon.Execution
import LamaSync.Daemon.Backups
import LamaSync.Daemon.GitFolder
import LamaSync.Daemon.Executor
import LamaSync.Daemon.DryRun
import LamaSync.Daemon.SyncRuns
import LamaSync.Daemon.FilterBaseline
import LamaSync.Daemon.SpuriousResync
import LamaSync.Daemon.NewerWins
import LamaSync.Daemon.DryRunChanges
import LamaSync.Daemon.ResolvedConflicts
import LamaSync.Daemon.ConflictTreatment
import LamaSync.Server.Conflicts
import LamaSync.Daemon.MountSwitch
import LamaSync.Daemon.MountSwitchLock
import LamaSync.Daemon.MountSupervisor
import LamaSync.Daemon.SingleWriter
import LamaSync.Daemon.Launches
import LamaSync.Daemon.AbortedRun
import LamaSync.Daemon.FolderPlan
import LamaSync.Daemon.ReviewedPlan
import LamaSync.Server.LockKeys
import LamaSync.Server.ConfigDelivery
import LamaSync.Server.ConfigRevision
import LamaSync.Server.RevisionTracking
import LamaSync.Lib.Index
import LamaSync.Server.LiveSessions
import LamaSync.Server.WebSockets
import LamaSync.Server.EventStream
import LamaSync.Server.BrowseJobs
import LamaSync.Server.BrowseExclusion
import LamaSync.Server.BrowseFreshness
import LamaSync.Lib.Slots
import LamaSync.Server.FolderSizes
import LamaSync.Server.FolderRefreshes
import LamaSync.Server.FolderSizeFreshness
import LamaSync.Lib.Relocation
import LamaSync.Server.BrowseMoves
import LamaSync.Daemon.LanPeer
import LamaSync.Lib.Relational
import LamaSync.Core.Schema
import LamaSync.Core.InitDb
import LamaSync.Core.LegacyConfig
import LamaSync.Core.StartUp
import LamaSync.Core.StartUpRows
import LamaSync.Lib.References
import LamaSync.Server.HostIdentity
import LamaSync.Server.ServerDeploys
import LamaSync.Daemon.SeedExtraction
import LamaSync.Companion.UploadLifecycle
import LamaSync.Companion.StagedCopies
import LamaSync.Companion.DeviceCredentials
import LamaSync.Companion.MediaDiscovery
import LamaSync.Companion.MediaHonesty
import LamaSync.Companion.MediaProtection
import LamaSync.Companion.MediaScans
import LamaSync.Daemon.CurrentRuns
import LamaSync.Server.SnapshotArchives
import LamaSync.Core.StagingLocation
import LamaSync.Server.SeedPlans
import LamaSync.Core.SeedManifest
import LamaSync.Server.SeedCleanupPasses
import LamaSync.Daemon.SeedDownloads
import LamaSync.Daemon.SeedPublication
import LamaSync.Daemon.SeedListing
import LamaSync.Daemon.SeedVerification
import LamaSync.Daemon.SeedSourceManifest
import LamaSync.Daemon.NestedPatterns
import LamaSync.Core.FolderHealth
import LamaSync.Daemon.BaselineIdentity
import LamaSync.Core.Retention
import LamaSync.Core.RetentionRules
import LamaSync.Core.RetentionBuckets
import LamaSync.Daemon.LockedRunExits
import LamaSync.Server.ExchangeLimits
import LamaSync.Daemon.FilterGlobs
import LamaSync.Daemon.WatchFilter
import LamaSync.Daemon.BaselinePair
import LamaSync.Daemon.RefusedRun
import LamaSync.Daemon.CleanSuccess
import LamaSync.Daemon.ConflictLines
import LamaSync.Core.ScheduleText
import LamaSync.Server.FolderRequests
import LamaSync.Server.StoredFolders
import LamaSync.Server.DestinationKeys
import LamaSync.Server.ProtectionRequests
import LamaSync.Daemon.StoredSchedules
import LamaSync.Daemon.OneShots
import LamaSync.Daemon.PauseModes
import LamaSync.Server.PeerLists
import LamaSync.Lib.Ini
import LamaSync.Server.RcloneConfig
import LamaSync.Server.RcloneSections
import LamaSync.Server.RcloneRemotes
