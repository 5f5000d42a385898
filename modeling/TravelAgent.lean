import TravelAgent.Transition
import TravelAgent.Leasing
import TravelAgent.Rows
import TravelAgent.TaskRecord
import TravelAgent.TaskStore
import TravelAgent.MysqlTaskStore
import TravelAgent.SqliteTaskStore
import TravelAgent.TaskOps
import TravelAgent.TaskMoves
import TravelAgent.TaskView
import TravelAgent.TaskLedger
import TravelAgent.TaskFencing
import TravelAgent.TaskOrphans
import TravelAgent.VersionStore
import TravelAgent.DraftService
import TravelAgent.VersionImmutability
import TravelAgent.Cursors
import TravelAgent.EventStream
import TravelAgent.StreamCompleteness
import TravelAgent.WorkerRun
import TravelAgent.WorkerTurns
import TravelAgent.CheckpointFencing
import TravelAgent.SessionStatus
import TravelAgent.SessionAgreement
import TravelAgent.ShareRecord
import TravelAgent.ShareStore
import TravelAgent.ShareMoves
import TravelAgent.ShareReads
import TravelAgent.ShareLifecycle
import TravelAgent.ShareIndexing
import TravelAgent.IndexPoints
import TravelAgent.IndexAgreement
import TravelAgent.TaskLog
import TravelAgent.StoreAgreement
import TravelAgent.Itinerary
import TravelAgent.ContentRebuild
import TravelAgent.NamedLocks
import TravelAgent.TaskCreation
import TravelAgent.CreationExclusion
import TravelAgent.TaskCreation
import TravelAgent.CreationExclusion
import TravelAgent.AgentState
import TravelAgent.RouteRequests
import TravelAgent.Acceptance
import TravelAgent.AgentDecide
import TravelAgent.AgentActions
import TravelAgent.RouteActions
import TravelAgent.PlanActions
import TravelAgent.AgentExecute
import TravelAgent.AgentChoice
import TravelAgent.AgentEffects
import TravelAgent.AgentRounds
import TravelAgent.PhaseInvariant
import TravelAgent.AgentPhases
import TravelAgent.Rollback
import TravelAgent.Completion
import TravelAgent.ConstraintFreshness
import TravelAgent.LikeCounts
import TravelAgent.ShareLoading
import TravelAgent.IndexAttempts
import TravelAgent.IndexWork
import TravelAgent.CircuitBreaker
import TravelAgent.ConfirmedRows
import TravelAgent.DraftConfirmation
import TravelAgent.AttractionRefill
import TravelAgent.Base64
import TravelAgent.IsoTime
import TravelAgent.Json
import TravelAgent.Keyset
import TravelAgent.ShareCursors
import TravelAgent.SharePages
import TravelAgent.Numerals
import TravelAgent.RestaurantHours
import TravelAgent.MealPlanning
import TravelAgent.RebuildChecks
import TravelAgent.DeletionFinality
import TravelAgent.HalfOpenPermits
import TravelAgent.Timeline
import TravelAgent.TimelineWalk
import TravelAgent.ScheduleFingerprint
import TravelAgent.Migration
import TravelAgent.MigrationAudit
import TravelAgent.MigrationRestore
import TravelAgent.MigrationAccess
import TravelAgent.Reconcile
import TravelAgent.ReconcileRun
import TravelAgent.ReconcileDeletes
import TravelAgent.CachedReads
import TravelAgent.TaskOwners
import TravelAgent.CacheFreshness
import TravelAgent.VersionRecords
import TravelAgent.DraftEdits
import TravelAgent.PlanEdits
import TravelAgent.RouteOrders
import TravelAgent.ScheduleMoves
import TravelAgent.ConstraintRepairs
import TravelAgent.Identities
import TravelAgent.RemoteReplacement
import TravelAgent.DuplicateCheck
import TravelAgent.PlanProperties
import TravelAgent.UniquePlaces
import TravelAgent.DayPeriods
import TravelAgent.Noting
import TravelAgent.RouteKeys
import TravelAgent.RouteQuality
import TravelAgent.Constraints
import TravelAgent.LunchWindow
import TravelAgent.ConstraintIssues
import TravelAgent.Rearrangement
import TravelAgent.Replanning
import TravelAgent.ScheduleCandidates
import TravelAgent.RefillCandidates
import TravelAgent.AddedPlaces
import TravelAgent.Inquiries
import TravelAgent.ConstraintAttempts
import TravelAgent.ConstraintCandidates
import TravelAgent.ConstraintSearch
import TravelAgent.KeyedMerge
import TravelAgent.CandidatePool
import TravelAgent.GuideTexts
import TravelAgent.ToolBreakers
import TravelAgent.GuideRetrieval
import TravelAgent.CityKeys
import TravelAgent.ConfirmRun
import TravelAgent.IdentityAgreement
import TravelAgent.VisitHours
import TravelAgent.CompletionSync
import TravelAgent.Dictionaries
import TravelAgent.RouteResults
import TravelAgent.IncrementalRoutes
import TravelAgent.LayeredCache
import TravelAgent.RouteCache
import TravelAgent.CacheTransparency
import TravelAgent.ActionInputs
import TravelAgent.AgentSession
import TravelAgent.SessionBudgets
import TravelAgent.ActionProgress
import TravelAgent.RepeatedActions
import TravelAgent.SessionProgress
import TravelAgent.IsoOrder
import TravelAgent.OrderedDicts
import TravelAgent.RateBound
import TravelAgent.SessionListing
import TravelAgent.TaskWake
import TravelAgent.Recording
import TravelAgent.RecordingIntegrity
import TravelAgent.AmapIsolation
import TravelAgent.CacheDecoding
import TravelAgent.CacheLifetime
import TravelAgent.Interleaving
import TravelAgent.RedisClient
import TravelAgent.CacheOrigins
import TravelAgent.BusinessCache
import TravelAgent.LayeredExpiry
import TravelAgent.TaskNotifications
import TravelAgent.NotificationDelivery
import TravelAgent.CancelSignals
import TravelAgent.RedisKeys
import TravelAgent.Accounts
import TravelAgent.Replacements
import TravelAgent.SafeErrors
import TravelAgent.SnapshotRedaction
import TravelAgent.JsonExtension
import TravelAgent.PlannerReplies
import TravelAgent.Reindex
import TravelAgent.ReindexTurns
import TravelAgent.ReindexVisits
