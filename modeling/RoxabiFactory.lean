import RoxabiFactory.PoolRecheck
import RoxabiFactory.PoolOrder
import RoxabiFactory.PoolManagerTurns
import RoxabiFactory.JobResults
import RoxabiFactory.CliPoolReaper
import RoxabiFactory.CliPoolOwnership
import RoxabiFactory.CliTurnIsolation
import RoxabiFactory.CliSessionContinuity
import RoxabiFactory.ClaudeRpcRelay
import RoxabiFactory.OmpPoolBound
import RoxabiFactory.WorkerPoolClient
import RoxabiFactory.PoolSessionCleared
import RoxabiFactory.SimpleAgentSessions
import RoxabiFactory.StreamBrackets
import RoxabiFactory.ToolLifecycle
import RoxabiFactory.OutboundFinalText
import RoxabiFactory.RenderEventRoundTrip
import RoxabiFactory.WireRoundTrips
import RoxabiFactory.LlmCircuitBreaker
import RoxabiFactory.HubCircuitBreaker
import RoxabiFactory.OutboundCircuitBreaker
import RoxabiFactory.OutboundDispatcher
import RoxabiFactory.NatsOutboundListener
import RoxabiFactory.NatsStreaming
import RoxabiFactory.ActiveJobsSingleton
import RoxabiFactory.KvIsolation
import RoxabiFactory.TurnRedelivery
import RoxabiFactory.DlqRouter
import RoxabiFactory.BlobReconcile
import RoxabiFactory.PlatformLinkGate
import RoxabiFactory.AuthStoreGrants
import RoxabiFactory.WebSessionStreams
import RoxabiFactory.AgentGrantCoherence
import RoxabiFactory.InviteOutcomes
import RoxabiFactory.DashboardRpc
import RoxabiFactory.DashboardAuthority
import RoxabiFactory.AdminAccess
import RoxabiFactory.AgentEditsKept
import RoxabiFactory.LinkChallengesHonest
import RoxabiFactory.AudioReplies
import RoxabiFactory.IngressGuarded
import RoxabiFactory.PipelineSurvives
import RoxabiFactory.CliLineShapes
import RoxabiFactory.RefusedJobOpen
import RoxabiFactory.StreamNumbering
import RoxabiFactory.LlmResumes
import RoxabiFactory.TurnStoreFailures
import RoxabiFactory.BlobFailures
import RoxabiFactory.AclReadBack
import RoxabiFactory.OmpJobs
import RoxabiFactory.WorkerRegistry
import RoxabiFactory.TextLines
import RoxabiFactory.SoulDocument
import RoxabiFactory.SoulRoundTrip
import RoxabiFactory.AgentLoader
import RoxabiFactory.AgentLoads
import RoxabiFactory.VoiceSettings
import RoxabiFactory.LoadableEdits
import RoxabiFactory.SoulEdits
import RoxabiFactory.LinkCodes
import RoxabiFactory.LinkCodesHonest
import RoxabiFactory.SqliteScripts
import RoxabiFactory.IdentityWrites
import RoxabiFactory.AudioConsumer
import RoxabiFactory.PullRequestEvents
import RoxabiFactory.PipelineFollows
import RoxabiFactory.SubjectPatterns
import RoxabiFactory.GrantGate
import RoxabiFactory.TokenCache
import RoxabiFactory.TokenDispenser
import RoxabiFactory.RetryStream
import RoxabiFactory.ResponseDispatch
import RoxabiFactory.PoolEvictions
import RoxabiFactory.HubLockfile
import RoxabiFactory.OutboundCompletion
import RoxabiFactory.DecodeErrors
import RoxabiFactory.VersionChecks
import RoxabiFactory.BusMessages
import RoxabiFactory.ChunkText
import RoxabiFactory.BacktrackingMatchers
import RoxabiFactory.DiscordTables
import RoxabiFactory.DiscordFormatter
import RoxabiFactory.DiscordWholeAnswers
import RoxabiFactory.RateLimits
import RoxabiFactory.MessageDebouncer
import RoxabiFactory.RegistryCoordinator
import RoxabiFactory.IdleWait
import RoxabiFactory.WorkspaceCommands
import RoxabiFactory.AguiRuns
import RoxabiFactory.TelegramFallback
import RoxabiFactory.AgentStores
import RoxabiFactory.PoolRecency
import RoxabiFactory.BreakerRuns
import RoxabiFactory.AgentFiles
